import TypeGraph.Text.CharTable

/-! The characters that full upper-casing changes, and texts that hold none of them. -/
namespace TypeGraph.Text

/-- Characters whose full upper-case mapping differs from themselves, `ß` and the title-case
letters among them. -/
def cased : CharTable := [
    ⟨0x61, 0x7a, 1⟩, ⟨0xb5, 0xb5, 1⟩, ⟨0xdf, 0xf6, 1⟩, ⟨0xf8, 0xff, 1⟩, ⟨0x101, 0x137, 2⟩,
    ⟨0x13a, 0x148, 2⟩, ⟨0x149, 0x177, 2⟩, ⟨0x17a, 0x17e, 2⟩, ⟨0x17f, 0x180, 1⟩, ⟨0x183, 0x185, 2⟩,
    ⟨0x188, 0x188, 1⟩, ⟨0x18c, 0x18c, 1⟩, ⟨0x192, 0x192, 1⟩, ⟨0x195, 0x195, 1⟩, ⟨0x199, 0x19b, 1⟩,
    ⟨0x19e, 0x19e, 1⟩, ⟨0x1a1, 0x1a5, 2⟩, ⟨0x1a8, 0x1a8, 1⟩, ⟨0x1ad, 0x1ad, 1⟩, ⟨0x1b0, 0x1b0, 1⟩,
    ⟨0x1b4, 0x1b6, 2⟩, ⟨0x1b9, 0x1b9, 1⟩, ⟨0x1bd, 0x1bf, 2⟩, ⟨0x1c5, 0x1c6, 1⟩, ⟨0x1c8, 0x1c9, 1⟩,
    ⟨0x1cb, 0x1cc, 1⟩, ⟨0x1ce, 0x1dc, 2⟩, ⟨0x1dd, 0x1ef, 2⟩, ⟨0x1f0, 0x1f2, 2⟩, ⟨0x1f3, 0x1f5, 2⟩,
    ⟨0x1f9, 0x21f, 2⟩, ⟨0x223, 0x233, 2⟩, ⟨0x23c, 0x23c, 1⟩, ⟨0x23f, 0x240, 1⟩, ⟨0x242, 0x242, 1⟩,
    ⟨0x247, 0x24f, 2⟩, ⟨0x250, 0x254, 1⟩, ⟨0x256, 0x257, 1⟩, ⟨0x259, 0x25b, 2⟩, ⟨0x25c, 0x25c, 1⟩,
    ⟨0x260, 0x261, 1⟩, ⟨0x263, 0x266, 1⟩, ⟨0x268, 0x26c, 1⟩, ⟨0x26f, 0x271, 2⟩, ⟨0x272, 0x272, 1⟩,
    ⟨0x275, 0x275, 1⟩, ⟨0x27d, 0x27d, 1⟩, ⟨0x280, 0x282, 2⟩, ⟨0x283, 0x283, 1⟩, ⟨0x287, 0x28c, 1⟩,
    ⟨0x292, 0x292, 1⟩, ⟨0x29d, 0x29e, 1⟩, ⟨0x345, 0x345, 1⟩, ⟨0x371, 0x373, 2⟩, ⟨0x377, 0x377, 1⟩,
    ⟨0x37b, 0x37d, 1⟩, ⟨0x390, 0x390, 1⟩, ⟨0x3ac, 0x3ce, 1⟩, ⟨0x3d0, 0x3d1, 1⟩, ⟨0x3d5, 0x3d7, 1⟩,
    ⟨0x3d9, 0x3ef, 2⟩, ⟨0x3f0, 0x3f3, 1⟩, ⟨0x3f5, 0x3f5, 1⟩, ⟨0x3f8, 0x3f8, 1⟩, ⟨0x3fb, 0x3fb, 1⟩,
    ⟨0x430, 0x45f, 1⟩, ⟨0x461, 0x481, 2⟩, ⟨0x48b, 0x4bf, 2⟩, ⟨0x4c2, 0x4ce, 2⟩, ⟨0x4cf, 0x52f, 2⟩,
    ⟨0x561, 0x587, 1⟩, ⟨0x10d0, 0x10fa, 1⟩, ⟨0x10fd, 0x10ff, 1⟩, ⟨0x13f8, 0x13fd, 1⟩,
    ⟨0x1c80, 0x1c88, 1⟩, ⟨0x1c8a, 0x1c8a, 1⟩, ⟨0x1d79, 0x1d79, 1⟩, ⟨0x1d7d, 0x1d7d, 1⟩,
    ⟨0x1d8e, 0x1d8e, 1⟩, ⟨0x1e01, 0x1e95, 2⟩, ⟨0x1e96, 0x1e9b, 1⟩, ⟨0x1ea1, 0x1eff, 2⟩,
    ⟨0x1f00, 0x1f07, 1⟩, ⟨0x1f10, 0x1f15, 1⟩, ⟨0x1f20, 0x1f27, 1⟩, ⟨0x1f30, 0x1f37, 1⟩,
    ⟨0x1f40, 0x1f45, 1⟩, ⟨0x1f50, 0x1f57, 1⟩, ⟨0x1f60, 0x1f67, 1⟩, ⟨0x1f70, 0x1f7d, 1⟩,
    ⟨0x1f80, 0x1fb4, 1⟩, ⟨0x1fb6, 0x1fb7, 1⟩, ⟨0x1fbc, 0x1fbe, 2⟩, ⟨0x1fc2, 0x1fc4, 1⟩,
    ⟨0x1fc6, 0x1fc7, 1⟩, ⟨0x1fcc, 0x1fcc, 1⟩, ⟨0x1fd0, 0x1fd3, 1⟩, ⟨0x1fd6, 0x1fd7, 1⟩,
    ⟨0x1fe0, 0x1fe7, 1⟩, ⟨0x1ff2, 0x1ff4, 1⟩, ⟨0x1ff6, 0x1ff7, 1⟩, ⟨0x1ffc, 0x1ffc, 1⟩,
    ⟨0x214e, 0x214e, 1⟩, ⟨0x2170, 0x217f, 1⟩, ⟨0x2184, 0x2184, 1⟩, ⟨0x24d0, 0x24e9, 1⟩,
    ⟨0x2c30, 0x2c5f, 1⟩, ⟨0x2c61, 0x2c61, 1⟩, ⟨0x2c65, 0x2c66, 1⟩, ⟨0x2c68, 0x2c6c, 2⟩,
    ⟨0x2c73, 0x2c73, 1⟩, ⟨0x2c76, 0x2c76, 1⟩, ⟨0x2c81, 0x2ce3, 2⟩, ⟨0x2cec, 0x2cee, 2⟩,
    ⟨0x2cf3, 0x2cf3, 1⟩, ⟨0x2d00, 0x2d25, 1⟩, ⟨0x2d27, 0x2d27, 1⟩, ⟨0x2d2d, 0x2d2d, 1⟩,
    ⟨0xa641, 0xa66d, 2⟩, ⟨0xa681, 0xa69b, 2⟩, ⟨0xa723, 0xa72f, 2⟩, ⟨0xa733, 0xa76f, 2⟩,
    ⟨0xa77a, 0xa77c, 2⟩, ⟨0xa77f, 0xa787, 2⟩, ⟨0xa78c, 0xa78c, 1⟩, ⟨0xa791, 0xa793, 2⟩,
    ⟨0xa794, 0xa794, 1⟩, ⟨0xa797, 0xa7a9, 2⟩, ⟨0xa7b5, 0xa7c3, 2⟩, ⟨0xa7c8, 0xa7ca, 2⟩,
    ⟨0xa7cd, 0xa7db, 2⟩, ⟨0xa7f6, 0xa7f6, 1⟩, ⟨0xab53, 0xab53, 1⟩, ⟨0xab70, 0xabbf, 1⟩,
    ⟨0xfb00, 0xfb06, 1⟩, ⟨0xfb13, 0xfb17, 1⟩, ⟨0xff41, 0xff5a, 1⟩, ⟨0x10428, 0x1044f, 1⟩,
    ⟨0x104d8, 0x104fb, 1⟩, ⟨0x10597, 0x105a1, 1⟩, ⟨0x105a3, 0x105b1, 1⟩, ⟨0x105b3, 0x105b9, 1⟩,
    ⟨0x105bb, 0x105bc, 1⟩, ⟨0x10cc0, 0x10cf2, 1⟩, ⟨0x10d70, 0x10d85, 1⟩, ⟨0x118c0, 0x118df, 1⟩,
    ⟨0x16e60, 0x16e7f, 1⟩, ⟨0x16ebb, 0x16ed3, 1⟩, ⟨0x1e922, 0x1e943, 1⟩]

/-- Whether full upper-casing leaves the text as it is: no character has another upper-case form. -/
def isUpperCase (text : String) : Bool :=
  text.toList.all fun c => !(cased.contains c)

end TypeGraph.Text
