/-! # Categories of characters

    The general categories of Unicode 17, as far as they are told apart here,
    with two properties of marks and symbols beside them: whether they are
    alphabetic, and whether they extend the character before them.

    The table lists where a category begins; it holds up to the next entry. -/

namespace RenderCheck.Text

/-- What kind of character a code point is. -/
inductive Category where
  | letter
  /-- A mark that goes with another character. -/
  | mark (alphabetic extending : Bool)
  /-- A decimal digit. -/
  | digit
  /-- A number that is written as a letter. -/
  | letterNumber
  /-- Any other number. -/
  | otherNumber
  /-- Punctuation that connects. -/
  | connector
  /-- Any other punctuation. -/
  | punctuation
  | symbol (alphabetic : Bool)
  | separator
  /-- A control or format character, or a code point that is private, a
      surrogate or not assigned. -/
  | other
  deriving DecidableEq, Inhabited

/-- Where the categories of the code points below 1000 begin, in hexadecimal. -/
def lowCategories : Array (Nat × Category) := #[
    (0x0, .other), (0x20, .separator), (0x21, .punctuation), (0x24, .symbol false),
    (0x25, .punctuation), (0x2B, .symbol false), (0x2C, .punctuation), (0x30, .digit),
    (0x3A, .punctuation), (0x3C, .symbol false), (0x3F, .punctuation), (0x41, .letter),
    (0x5B, .punctuation), (0x5E, .symbol false), (0x5F, .connector), (0x60, .symbol false),
    (0x61, .letter), (0x7B, .punctuation), (0x7C, .symbol false), (0x7D, .punctuation),
    (0x7E, .symbol false), (0x7F, .other), (0xA0, .separator), (0xA1, .punctuation),
    (0xA2, .symbol false), (0xA7, .punctuation), (0xA8, .symbol false), (0xAA, .letter),
    (0xAB, .punctuation), (0xAC, .symbol false), (0xAD, .other), (0xAE, .symbol false),
    (0xB2, .otherNumber), (0xB4, .symbol false), (0xB5, .letter), (0xB6, .punctuation),
    (0xB8, .symbol false), (0xB9, .otherNumber), (0xBA, .letter), (0xBB, .punctuation),
    (0xBC, .otherNumber), (0xBF, .punctuation), (0xC0, .letter), (0xD7, .symbol false),
    (0xD8, .letter), (0xF7, .symbol false), (0xF8, .letter), (0x2C2, .symbol false),
    (0x2C6, .letter), (0x2D2, .symbol false), (0x2E0, .letter), (0x2E5, .symbol false),
    (0x2EC, .letter), (0x2ED, .symbol false), (0x2EE, .letter), (0x2EF, .symbol false),
    (0x300, .mark false true), (0x345, .mark true true), (0x346, .mark false true),
    (0x363, .mark true true), (0x370, .letter), (0x375, .symbol false), (0x376, .letter),
    (0x378, .other), (0x37A, .letter), (0x37E, .punctuation), (0x37F, .letter), (0x380, .other),
    (0x384, .symbol false), (0x386, .letter), (0x387, .punctuation), (0x388, .letter),
    (0x38B, .other), (0x38C, .letter), (0x38D, .other), (0x38E, .letter), (0x3A2, .other),
    (0x3A3, .letter), (0x3F6, .symbol false), (0x3F7, .letter), (0x482, .symbol false),
    (0x483, .mark false true), (0x48A, .letter), (0x530, .other), (0x531, .letter),
    (0x557, .other), (0x559, .letter), (0x55A, .punctuation), (0x560, .letter),
    (0x589, .punctuation), (0x58B, .other), (0x58D, .symbol false), (0x590, .other),
    (0x591, .mark false true), (0x5B0, .mark true true), (0x5BE, .punctuation),
    (0x5BF, .mark true true), (0x5C0, .punctuation), (0x5C1, .mark true true),
    (0x5C3, .punctuation), (0x5C4, .mark true true), (0x5C6, .punctuation),
    (0x5C7, .mark true true), (0x5C8, .other), (0x5D0, .letter), (0x5EB, .other),
    (0x5EF, .letter), (0x5F3, .punctuation), (0x5F5, .other), (0x606, .symbol false),
    (0x609, .punctuation), (0x60B, .symbol false), (0x60C, .punctuation), (0x60E, .symbol false),
    (0x610, .mark true true), (0x61B, .punctuation), (0x61C, .other), (0x61D, .punctuation),
    (0x620, .letter), (0x64B, .mark true true), (0x658, .mark false true),
    (0x659, .mark true true), (0x660, .digit), (0x66A, .punctuation), (0x66E, .letter),
    (0x670, .mark true true), (0x671, .letter), (0x6D4, .punctuation), (0x6D5, .letter),
    (0x6D6, .mark true true), (0x6DD, .other), (0x6DE, .symbol false), (0x6DF, .mark false true),
    (0x6E1, .mark true true), (0x6E5, .letter), (0x6E7, .mark true true), (0x6E9, .symbol false),
    (0x6EA, .mark false true), (0x6ED, .mark true true), (0x6EE, .letter), (0x6F0, .digit),
    (0x6FA, .letter), (0x6FD, .symbol false), (0x6FF, .letter), (0x700, .punctuation),
    (0x70E, .other), (0x710, .letter), (0x711, .mark true true), (0x712, .letter),
    (0x730, .mark true true), (0x740, .mark false true), (0x74B, .other), (0x74D, .letter),
    (0x7A6, .mark true true), (0x7B1, .letter), (0x7B2, .other), (0x7C0, .digit),
    (0x7CA, .letter), (0x7EB, .mark false true), (0x7F4, .letter), (0x7F6, .symbol false),
    (0x7F7, .punctuation), (0x7FA, .letter), (0x7FB, .other), (0x7FD, .mark false true),
    (0x7FE, .symbol false), (0x800, .letter), (0x816, .mark true true), (0x818, .mark false true),
    (0x81A, .letter), (0x81B, .mark true true), (0x824, .letter), (0x825, .mark true true),
    (0x828, .letter), (0x829, .mark true true), (0x82D, .mark false true), (0x82E, .other),
    (0x830, .punctuation), (0x83F, .other), (0x840, .letter), (0x859, .mark false true),
    (0x85C, .other), (0x85E, .punctuation), (0x85F, .other), (0x860, .letter), (0x86B, .other),
    (0x870, .letter), (0x888, .symbol false), (0x889, .letter), (0x890, .other),
    (0x897, .mark true true), (0x898, .mark false true), (0x8A0, .letter),
    (0x8CA, .mark false true), (0x8D4, .mark true true), (0x8E0, .mark false true),
    (0x8E2, .other), (0x8E3, .mark true true), (0x8EA, .mark false true),
    (0x8F0, .mark true true), (0x903, .mark true false), (0x904, .letter),
    (0x93A, .mark true true), (0x93B, .mark true false), (0x93C, .mark false true),
    (0x93D, .letter), (0x93E, .mark true false), (0x941, .mark true true),
    (0x949, .mark true false), (0x94D, .mark false true), (0x94E, .mark true false),
    (0x950, .letter), (0x951, .mark false true), (0x955, .mark true true), (0x958, .letter),
    (0x962, .mark true true), (0x964, .punctuation), (0x966, .digit), (0x970, .punctuation),
    (0x971, .letter), (0x981, .mark true true), (0x982, .mark true false), (0x984, .other),
    (0x985, .letter), (0x98D, .other), (0x98F, .letter), (0x991, .other), (0x993, .letter),
    (0x9A9, .other), (0x9AA, .letter), (0x9B1, .other), (0x9B2, .letter), (0x9B3, .other),
    (0x9B6, .letter), (0x9BA, .other), (0x9BC, .mark false true), (0x9BD, .letter),
    (0x9BE, .mark true true), (0x9BF, .mark true false), (0x9C1, .mark true true),
    (0x9C5, .other), (0x9C7, .mark true false), (0x9C9, .other), (0x9CB, .mark true false),
    (0x9CD, .mark false true), (0x9CE, .letter), (0x9CF, .other), (0x9D7, .mark true true),
    (0x9D8, .other), (0x9DC, .letter), (0x9DE, .other), (0x9DF, .letter),
    (0x9E2, .mark true true), (0x9E4, .other), (0x9E6, .digit), (0x9F0, .letter),
    (0x9F2, .symbol false), (0x9F4, .otherNumber), (0x9FA, .symbol false), (0x9FC, .letter),
    (0x9FD, .punctuation), (0x9FE, .mark false true), (0x9FF, .other), (0xA01, .mark true true),
    (0xA03, .mark true false), (0xA04, .other), (0xA05, .letter), (0xA0B, .other),
    (0xA0F, .letter), (0xA11, .other), (0xA13, .letter), (0xA29, .other), (0xA2A, .letter),
    (0xA31, .other), (0xA32, .letter), (0xA34, .other), (0xA35, .letter), (0xA37, .other),
    (0xA38, .letter), (0xA3A, .other), (0xA3C, .mark false true), (0xA3D, .other),
    (0xA3E, .mark true false), (0xA41, .mark true true), (0xA43, .other),
    (0xA47, .mark true true), (0xA49, .other), (0xA4B, .mark true true),
    (0xA4D, .mark false true), (0xA4E, .other), (0xA51, .mark true true), (0xA52, .other),
    (0xA59, .letter), (0xA5D, .other), (0xA5E, .letter), (0xA5F, .other), (0xA66, .digit),
    (0xA70, .mark true true), (0xA72, .letter), (0xA75, .mark true true), (0xA76, .punctuation),
    (0xA77, .other), (0xA81, .mark true true), (0xA83, .mark true false), (0xA84, .other),
    (0xA85, .letter), (0xA8E, .other), (0xA8F, .letter), (0xA92, .other), (0xA93, .letter),
    (0xAA9, .other), (0xAAA, .letter), (0xAB1, .other), (0xAB2, .letter), (0xAB4, .other),
    (0xAB5, .letter), (0xABA, .other), (0xABC, .mark false true), (0xABD, .letter),
    (0xABE, .mark true false), (0xAC1, .mark true true), (0xAC6, .other),
    (0xAC7, .mark true true), (0xAC9, .mark true false), (0xACA, .other),
    (0xACB, .mark true false), (0xACD, .mark false true), (0xACE, .other), (0xAD0, .letter),
    (0xAD1, .other), (0xAE0, .letter), (0xAE2, .mark true true), (0xAE4, .other), (0xAE6, .digit),
    (0xAF0, .punctuation), (0xAF1, .symbol false), (0xAF2, .other), (0xAF9, .letter),
    (0xAFA, .mark true true), (0xAFD, .mark false true), (0xB00, .other),
    (0xB01, .mark true true), (0xB02, .mark true false), (0xB04, .other), (0xB05, .letter),
    (0xB0D, .other), (0xB0F, .letter), (0xB11, .other), (0xB13, .letter), (0xB29, .other),
    (0xB2A, .letter), (0xB31, .other), (0xB32, .letter), (0xB34, .other), (0xB35, .letter),
    (0xB3A, .other), (0xB3C, .mark false true), (0xB3D, .letter), (0xB3E, .mark true true),
    (0xB40, .mark true false), (0xB41, .mark true true), (0xB45, .other),
    (0xB47, .mark true false), (0xB49, .other), (0xB4B, .mark true false),
    (0xB4D, .mark false true), (0xB4E, .other), (0xB55, .mark false true),
    (0xB56, .mark true true), (0xB58, .other), (0xB5C, .letter), (0xB5E, .other),
    (0xB5F, .letter), (0xB62, .mark true true), (0xB64, .other), (0xB66, .digit),
    (0xB70, .symbol false), (0xB71, .letter), (0xB72, .otherNumber), (0xB78, .other),
    (0xB82, .mark true true), (0xB83, .letter), (0xB84, .other), (0xB85, .letter),
    (0xB8B, .other), (0xB8E, .letter), (0xB91, .other), (0xB92, .letter), (0xB96, .other),
    (0xB99, .letter), (0xB9B, .other), (0xB9C, .letter), (0xB9D, .other), (0xB9E, .letter),
    (0xBA0, .other), (0xBA3, .letter), (0xBA5, .other), (0xBA8, .letter), (0xBAB, .other),
    (0xBAE, .letter), (0xBBA, .other), (0xBBE, .mark true true), (0xBBF, .mark true false),
    (0xBC0, .mark true true), (0xBC1, .mark true false), (0xBC3, .other),
    (0xBC6, .mark true false), (0xBC9, .other), (0xBCA, .mark true false),
    (0xBCD, .mark false true), (0xBCE, .other), (0xBD0, .letter), (0xBD1, .other),
    (0xBD7, .mark true true), (0xBD8, .other), (0xBE6, .digit), (0xBF0, .otherNumber),
    (0xBF3, .symbol false), (0xBFB, .other), (0xC00, .mark true true), (0xC01, .mark true false),
    (0xC04, .mark true true), (0xC05, .letter), (0xC0D, .other), (0xC0E, .letter),
    (0xC11, .other), (0xC12, .letter), (0xC29, .other), (0xC2A, .letter), (0xC3A, .other),
    (0xC3C, .mark false true), (0xC3D, .letter), (0xC3E, .mark true true),
    (0xC41, .mark true false), (0xC45, .other), (0xC46, .mark true true), (0xC49, .other),
    (0xC4A, .mark true true), (0xC4D, .mark false true), (0xC4E, .other),
    (0xC55, .mark true true), (0xC57, .other), (0xC58, .letter), (0xC5B, .other),
    (0xC5C, .letter), (0xC5E, .other), (0xC60, .letter), (0xC62, .mark true true),
    (0xC64, .other), (0xC66, .digit), (0xC70, .other), (0xC77, .punctuation),
    (0xC78, .otherNumber), (0xC7F, .symbol false), (0xC80, .letter), (0xC81, .mark true true),
    (0xC82, .mark true false), (0xC84, .punctuation), (0xC85, .letter), (0xC8D, .other),
    (0xC8E, .letter), (0xC91, .other), (0xC92, .letter), (0xCA9, .other), (0xCAA, .letter),
    (0xCB4, .other), (0xCB5, .letter), (0xCBA, .other), (0xCBC, .mark false true),
    (0xCBD, .letter), (0xCBE, .mark true false), (0xCBF, .mark true true),
    (0xCC1, .mark true false), (0xCC2, .mark true true), (0xCC3, .mark true false),
    (0xCC5, .other), (0xCC6, .mark true true), (0xCC9, .other), (0xCCA, .mark true true),
    (0xCCD, .mark false true), (0xCCE, .other), (0xCD5, .mark true true), (0xCD7, .other),
    (0xCDC, .letter), (0xCDF, .other), (0xCE0, .letter), (0xCE2, .mark true true),
    (0xCE4, .other), (0xCE6, .digit), (0xCF0, .other), (0xCF1, .letter),
    (0xCF3, .mark true false), (0xCF4, .other), (0xD00, .mark true true),
    (0xD02, .mark true false), (0xD04, .letter), (0xD0D, .other), (0xD0E, .letter),
    (0xD11, .other), (0xD12, .letter), (0xD3B, .mark false true), (0xD3D, .letter),
    (0xD3E, .mark true true), (0xD3F, .mark true false), (0xD41, .mark true true),
    (0xD45, .other), (0xD46, .mark true false), (0xD49, .other), (0xD4A, .mark true false),
    (0xD4D, .mark false true), (0xD4E, .letter), (0xD4F, .symbol false), (0xD50, .other),
    (0xD54, .letter), (0xD57, .mark true true), (0xD58, .otherNumber), (0xD5F, .letter),
    (0xD62, .mark true true), (0xD64, .other), (0xD66, .digit), (0xD70, .otherNumber),
    (0xD79, .symbol false), (0xD7A, .letter), (0xD80, .other), (0xD81, .mark true true),
    (0xD82, .mark true false), (0xD84, .other), (0xD85, .letter), (0xD97, .other),
    (0xD9A, .letter), (0xDB2, .other), (0xDB3, .letter), (0xDBC, .other), (0xDBD, .letter),
    (0xDBE, .other), (0xDC0, .letter), (0xDC7, .other), (0xDCA, .mark false true),
    (0xDCB, .other), (0xDCF, .mark true true), (0xDD0, .mark true false),
    (0xDD2, .mark true true), (0xDD5, .other), (0xDD6, .mark true true), (0xDD7, .other),
    (0xDD8, .mark true false), (0xDDF, .mark true true), (0xDE0, .other), (0xDE6, .digit),
    (0xDF0, .other), (0xDF2, .mark true false), (0xDF4, .punctuation), (0xDF5, .other),
    (0xE01, .letter), (0xE31, .mark true true), (0xE32, .letter), (0xE34, .mark true true),
    (0xE3B, .other), (0xE3F, .symbol false), (0xE40, .letter), (0xE47, .mark false true),
    (0xE4D, .mark true true), (0xE4E, .mark false true), (0xE4F, .punctuation), (0xE50, .digit),
    (0xE5A, .punctuation), (0xE5C, .other), (0xE81, .letter), (0xE83, .other), (0xE84, .letter),
    (0xE85, .other), (0xE86, .letter), (0xE8B, .other), (0xE8C, .letter), (0xEA4, .other),
    (0xEA5, .letter), (0xEA6, .other), (0xEA7, .letter), (0xEB1, .mark true true),
    (0xEB2, .letter), (0xEB4, .mark true true), (0xEBA, .mark false true),
    (0xEBB, .mark true true), (0xEBD, .letter), (0xEBE, .other), (0xEC0, .letter),
    (0xEC5, .other), (0xEC6, .letter), (0xEC7, .other), (0xEC8, .mark false true),
    (0xECD, .mark true true), (0xECE, .mark false true), (0xECF, .other), (0xED0, .digit),
    (0xEDA, .other), (0xEDC, .letter), (0xEE0, .other), (0xF00, .letter), (0xF01, .symbol false),
    (0xF04, .punctuation), (0xF13, .symbol false), (0xF14, .punctuation), (0xF15, .symbol false),
    (0xF18, .mark false true), (0xF1A, .symbol false), (0xF20, .digit), (0xF2A, .otherNumber),
    (0xF34, .symbol false), (0xF35, .mark false true), (0xF36, .symbol false),
    (0xF37, .mark false true), (0xF38, .symbol false), (0xF39, .mark false true),
    (0xF3A, .punctuation), (0xF3E, .mark false false), (0xF40, .letter), (0xF48, .other),
    (0xF49, .letter), (0xF6D, .other), (0xF71, .mark true true), (0xF7F, .mark true false),
    (0xF80, .mark true true), (0xF84, .mark false true), (0xF85, .punctuation),
    (0xF86, .mark false true), (0xF88, .letter), (0xF8D, .mark true true), (0xF98, .other),
    (0xF99, .mark true true), (0xFBD, .other), (0xFBE, .symbol false), (0xFC6, .mark false true),
    (0xFC7, .symbol false), (0xFCD, .other), (0xFCE, .symbol false), (0xFD0, .punctuation),
    (0xFD5, .symbol false), (0xFD9, .punctuation), (0xFDB, .other)
  ]

/-- Where the categories of the code points from 1000 to A000 begin, in hexadecimal. -/
def middleCategories : Array (Nat × Category) := #[
    (0x1000, .letter), (0x102B, .mark true false), (0x102D, .mark true true),
    (0x1031, .mark true false), (0x1032, .mark true true), (0x1037, .mark false true),
    (0x1038, .mark true false), (0x1039, .mark false true), (0x103B, .mark true false),
    (0x103D, .mark true true), (0x103F, .letter), (0x1040, .digit), (0x104A, .punctuation),
    (0x1050, .letter), (0x1056, .mark true false), (0x1058, .mark true true), (0x105A, .letter),
    (0x105E, .mark true true), (0x1061, .letter), (0x1062, .mark true false), (0x1065, .letter),
    (0x1067, .mark true false), (0x106E, .letter), (0x1071, .mark true true), (0x1075, .letter),
    (0x1082, .mark true true), (0x1083, .mark true false), (0x1085, .mark true true),
    (0x1087, .mark true false), (0x108D, .mark true true), (0x108E, .letter),
    (0x108F, .mark true false), (0x1090, .digit), (0x109A, .mark true false),
    (0x109D, .mark true true), (0x109E, .symbol false), (0x10A0, .letter), (0x10C6, .other),
    (0x10C7, .letter), (0x10C8, .other), (0x10CD, .letter), (0x10CE, .other), (0x10D0, .letter),
    (0x10FB, .punctuation), (0x10FC, .letter), (0x1249, .other), (0x124A, .letter),
    (0x124E, .other), (0x1250, .letter), (0x1257, .other), (0x1258, .letter), (0x1259, .other),
    (0x125A, .letter), (0x125E, .other), (0x1260, .letter), (0x1289, .other), (0x128A, .letter),
    (0x128E, .other), (0x1290, .letter), (0x12B1, .other), (0x12B2, .letter), (0x12B6, .other),
    (0x12B8, .letter), (0x12BF, .other), (0x12C0, .letter), (0x12C1, .other), (0x12C2, .letter),
    (0x12C6, .other), (0x12C8, .letter), (0x12D7, .other), (0x12D8, .letter), (0x1311, .other),
    (0x1312, .letter), (0x1316, .other), (0x1318, .letter), (0x135B, .other),
    (0x135D, .mark false true), (0x1360, .punctuation), (0x1369, .otherNumber), (0x137D, .other),
    (0x1380, .letter), (0x1390, .symbol false), (0x139A, .other), (0x13A0, .letter),
    (0x13F6, .other), (0x13F8, .letter), (0x13FE, .other), (0x1400, .punctuation),
    (0x1401, .letter), (0x166D, .symbol false), (0x166E, .punctuation), (0x166F, .letter),
    (0x1680, .separator), (0x1681, .letter), (0x169B, .punctuation), (0x169D, .other),
    (0x16A0, .letter), (0x16EB, .punctuation), (0x16EE, .letterNumber), (0x16F1, .letter),
    (0x16F9, .other), (0x1700, .letter), (0x1712, .mark true true), (0x1714, .mark false true),
    (0x1716, .other), (0x171F, .letter), (0x1732, .mark true true), (0x1734, .mark false true),
    (0x1735, .punctuation), (0x1737, .other), (0x1740, .letter), (0x1752, .mark true true),
    (0x1754, .other), (0x1760, .letter), (0x176D, .other), (0x176E, .letter), (0x1771, .other),
    (0x1772, .mark true true), (0x1774, .other), (0x1780, .letter), (0x17B4, .mark false true),
    (0x17B6, .mark true false), (0x17B7, .mark true true), (0x17BE, .mark true false),
    (0x17C6, .mark true true), (0x17C7, .mark true false), (0x17C9, .mark false true),
    (0x17D4, .punctuation), (0x17D7, .letter), (0x17D8, .punctuation), (0x17DB, .symbol false),
    (0x17DC, .letter), (0x17DD, .mark false true), (0x17DE, .other), (0x17E0, .digit),
    (0x17EA, .other), (0x17F0, .otherNumber), (0x17FA, .other), (0x1800, .punctuation),
    (0x180B, .mark false true), (0x180E, .other), (0x180F, .mark false true), (0x1810, .digit),
    (0x181A, .other), (0x1820, .letter), (0x1879, .other), (0x1880, .letter),
    (0x1885, .mark true true), (0x1887, .letter), (0x18A9, .mark true true), (0x18AA, .letter),
    (0x18AB, .other), (0x18B0, .letter), (0x18F6, .other), (0x1900, .letter), (0x191F, .other),
    (0x1920, .mark true true), (0x1923, .mark true false), (0x1927, .mark true true),
    (0x1929, .mark true false), (0x192C, .other), (0x1930, .mark true false),
    (0x1932, .mark true true), (0x1933, .mark true false), (0x1939, .mark false true),
    (0x193C, .other), (0x1940, .symbol false), (0x1941, .other), (0x1944, .punctuation),
    (0x1946, .digit), (0x1950, .letter), (0x196E, .other), (0x1970, .letter), (0x1975, .other),
    (0x1980, .letter), (0x19AC, .other), (0x19B0, .letter), (0x19CA, .other), (0x19D0, .digit),
    (0x19DA, .otherNumber), (0x19DB, .other), (0x19DE, .symbol false), (0x1A00, .letter),
    (0x1A17, .mark true true), (0x1A19, .mark true false), (0x1A1B, .mark true true),
    (0x1A1C, .other), (0x1A1E, .punctuation), (0x1A20, .letter), (0x1A55, .mark true false),
    (0x1A56, .mark true true), (0x1A57, .mark true false), (0x1A58, .mark true true),
    (0x1A5F, .other), (0x1A60, .mark false true), (0x1A61, .mark true false),
    (0x1A62, .mark true true), (0x1A63, .mark true false), (0x1A65, .mark true true),
    (0x1A6D, .mark true false), (0x1A73, .mark true true), (0x1A75, .mark false true),
    (0x1A7D, .other), (0x1A7F, .mark false true), (0x1A80, .digit), (0x1A8A, .other),
    (0x1A90, .digit), (0x1A9A, .other), (0x1AA0, .punctuation), (0x1AA7, .letter),
    (0x1AA8, .punctuation), (0x1AAE, .other), (0x1AB0, .mark false true),
    (0x1ABF, .mark true true), (0x1AC1, .mark false true), (0x1ACC, .mark true true),
    (0x1ACF, .mark false true), (0x1ADE, .other), (0x1AE0, .mark false true), (0x1AEC, .other),
    (0x1B00, .mark true true), (0x1B04, .mark true false), (0x1B05, .letter),
    (0x1B34, .mark false true), (0x1B35, .mark true true), (0x1B3E, .mark true false),
    (0x1B42, .mark true true), (0x1B44, .mark false true), (0x1B45, .letter), (0x1B4D, .other),
    (0x1B4E, .punctuation), (0x1B50, .digit), (0x1B5A, .punctuation), (0x1B61, .symbol false),
    (0x1B6B, .mark false true), (0x1B74, .symbol false), (0x1B7D, .punctuation),
    (0x1B80, .mark true true), (0x1B82, .mark true false), (0x1B83, .letter),
    (0x1BA1, .mark true false), (0x1BA2, .mark true true), (0x1BA6, .mark true false),
    (0x1BA8, .mark true true), (0x1BAA, .mark false true), (0x1BAC, .mark true true),
    (0x1BAE, .letter), (0x1BB0, .digit), (0x1BBA, .letter), (0x1BE6, .mark false true),
    (0x1BE7, .mark true false), (0x1BE8, .mark true true), (0x1BEA, .mark true false),
    (0x1BED, .mark true true), (0x1BEE, .mark true false), (0x1BEF, .mark true true),
    (0x1BF2, .mark false true), (0x1BF4, .other), (0x1BFC, .punctuation), (0x1C00, .letter),
    (0x1C24, .mark true false), (0x1C2C, .mark true true), (0x1C34, .mark true false),
    (0x1C36, .mark true true), (0x1C37, .mark false true), (0x1C38, .other),
    (0x1C3B, .punctuation), (0x1C40, .digit), (0x1C4A, .other), (0x1C4D, .letter),
    (0x1C50, .digit), (0x1C5A, .letter), (0x1C7E, .punctuation), (0x1C80, .letter),
    (0x1C8B, .other), (0x1C90, .letter), (0x1CBB, .other), (0x1CBD, .letter),
    (0x1CC0, .punctuation), (0x1CC8, .other), (0x1CD0, .mark false true), (0x1CD3, .punctuation),
    (0x1CD4, .mark false true), (0x1CE1, .mark false false), (0x1CE2, .mark false true),
    (0x1CE9, .letter), (0x1CED, .mark false true), (0x1CEE, .letter), (0x1CF4, .mark false true),
    (0x1CF5, .letter), (0x1CF7, .mark false false), (0x1CF8, .mark false true), (0x1CFA, .letter),
    (0x1CFB, .other), (0x1D00, .letter), (0x1DC0, .mark false true), (0x1DD3, .mark true true),
    (0x1DF5, .mark false true), (0x1E00, .letter), (0x1F16, .other), (0x1F18, .letter),
    (0x1F1E, .other), (0x1F20, .letter), (0x1F46, .other), (0x1F48, .letter), (0x1F4E, .other),
    (0x1F50, .letter), (0x1F58, .other), (0x1F59, .letter), (0x1F5A, .other), (0x1F5B, .letter),
    (0x1F5C, .other), (0x1F5D, .letter), (0x1F5E, .other), (0x1F5F, .letter), (0x1F7E, .other),
    (0x1F80, .letter), (0x1FB5, .other), (0x1FB6, .letter), (0x1FBD, .symbol false),
    (0x1FBE, .letter), (0x1FBF, .symbol false), (0x1FC2, .letter), (0x1FC5, .other),
    (0x1FC6, .letter), (0x1FCD, .symbol false), (0x1FD0, .letter), (0x1FD4, .other),
    (0x1FD6, .letter), (0x1FDC, .other), (0x1FDD, .symbol false), (0x1FE0, .letter),
    (0x1FED, .symbol false), (0x1FF0, .other), (0x1FF2, .letter), (0x1FF5, .other),
    (0x1FF6, .letter), (0x1FFD, .symbol false), (0x1FFF, .other), (0x2000, .separator),
    (0x200B, .other), (0x2010, .punctuation), (0x2028, .separator), (0x202A, .other),
    (0x202F, .separator), (0x2030, .punctuation), (0x203F, .connector), (0x2041, .punctuation),
    (0x2044, .symbol false), (0x2045, .punctuation), (0x2052, .symbol false),
    (0x2053, .punctuation), (0x2054, .connector), (0x2055, .punctuation), (0x205F, .separator),
    (0x2060, .other), (0x2070, .otherNumber), (0x2071, .letter), (0x2072, .other),
    (0x2074, .otherNumber), (0x207A, .symbol false), (0x207D, .punctuation), (0x207F, .letter),
    (0x2080, .otherNumber), (0x208A, .symbol false), (0x208D, .punctuation), (0x208F, .other),
    (0x2090, .letter), (0x209D, .other), (0x20A0, .symbol false), (0x20C2, .other),
    (0x20D0, .mark false true), (0x20F1, .other), (0x2100, .symbol false), (0x2102, .letter),
    (0x2103, .symbol false), (0x2107, .letter), (0x2108, .symbol false), (0x210A, .letter),
    (0x2114, .symbol false), (0x2115, .letter), (0x2116, .symbol false), (0x2119, .letter),
    (0x211E, .symbol false), (0x2124, .letter), (0x2125, .symbol false), (0x2126, .letter),
    (0x2127, .symbol false), (0x2128, .letter), (0x2129, .symbol false), (0x212A, .letter),
    (0x212E, .symbol false), (0x212F, .letter), (0x213A, .symbol false), (0x213C, .letter),
    (0x2140, .symbol false), (0x2145, .letter), (0x214A, .symbol false), (0x214E, .letter),
    (0x214F, .symbol false), (0x2150, .otherNumber), (0x2160, .letterNumber), (0x2183, .letter),
    (0x2185, .letterNumber), (0x2189, .otherNumber), (0x218A, .symbol false), (0x218C, .other),
    (0x2190, .symbol false), (0x2308, .punctuation), (0x230C, .symbol false),
    (0x2329, .punctuation), (0x232B, .symbol false), (0x242A, .other), (0x2440, .symbol false),
    (0x244B, .other), (0x2460, .otherNumber), (0x249C, .symbol false), (0x24B6, .symbol true),
    (0x24EA, .otherNumber), (0x2500, .symbol false), (0x2768, .punctuation),
    (0x2776, .otherNumber), (0x2794, .symbol false), (0x27C5, .punctuation),
    (0x27C7, .symbol false), (0x27E6, .punctuation), (0x27F0, .symbol false),
    (0x2983, .punctuation), (0x2999, .symbol false), (0x29D8, .punctuation),
    (0x29DC, .symbol false), (0x29FC, .punctuation), (0x29FE, .symbol false), (0x2B74, .other),
    (0x2B76, .symbol false), (0x2C00, .letter), (0x2CE5, .symbol false), (0x2CEB, .letter),
    (0x2CEF, .mark false true), (0x2CF2, .letter), (0x2CF4, .other), (0x2CF9, .punctuation),
    (0x2CFD, .otherNumber), (0x2CFE, .punctuation), (0x2D00, .letter), (0x2D26, .other),
    (0x2D27, .letter), (0x2D28, .other), (0x2D2D, .letter), (0x2D2E, .other), (0x2D30, .letter),
    (0x2D68, .other), (0x2D6F, .letter), (0x2D70, .punctuation), (0x2D71, .other),
    (0x2D7F, .mark false true), (0x2D80, .letter), (0x2D97, .other), (0x2DA0, .letter),
    (0x2DA7, .other), (0x2DA8, .letter), (0x2DAF, .other), (0x2DB0, .letter), (0x2DB7, .other),
    (0x2DB8, .letter), (0x2DBF, .other), (0x2DC0, .letter), (0x2DC7, .other), (0x2DC8, .letter),
    (0x2DCF, .other), (0x2DD0, .letter), (0x2DD7, .other), (0x2DD8, .letter), (0x2DDF, .other),
    (0x2DE0, .mark true true), (0x2E00, .punctuation), (0x2E2F, .letter), (0x2E30, .punctuation),
    (0x2E50, .symbol false), (0x2E52, .punctuation), (0x2E5E, .other), (0x2E80, .symbol false),
    (0x2E9A, .other), (0x2E9B, .symbol false), (0x2EF4, .other), (0x2F00, .symbol false),
    (0x2FD6, .other), (0x2FF0, .symbol false), (0x3000, .separator), (0x3001, .punctuation),
    (0x3004, .symbol false), (0x3005, .letter), (0x3007, .letterNumber), (0x3008, .punctuation),
    (0x3012, .symbol false), (0x3014, .punctuation), (0x3020, .symbol false),
    (0x3021, .letterNumber), (0x302A, .mark false true), (0x3030, .punctuation),
    (0x3031, .letter), (0x3036, .symbol false), (0x3038, .letterNumber), (0x303B, .letter),
    (0x303D, .punctuation), (0x303E, .symbol false), (0x3040, .other), (0x3041, .letter),
    (0x3097, .other), (0x3099, .mark false true), (0x309B, .symbol false), (0x309D, .letter),
    (0x30A0, .punctuation), (0x30A1, .letter), (0x30FB, .punctuation), (0x30FC, .letter),
    (0x3100, .other), (0x3105, .letter), (0x3130, .other), (0x3131, .letter), (0x318F, .other),
    (0x3190, .symbol false), (0x3192, .otherNumber), (0x3196, .symbol false), (0x31A0, .letter),
    (0x31C0, .symbol false), (0x31E6, .other), (0x31EF, .symbol false), (0x31F0, .letter),
    (0x3200, .symbol false), (0x321F, .other), (0x3220, .otherNumber), (0x322A, .symbol false),
    (0x3248, .otherNumber), (0x3250, .symbol false), (0x3251, .otherNumber),
    (0x3260, .symbol false), (0x3280, .otherNumber), (0x328A, .symbol false),
    (0x32B1, .otherNumber), (0x32C0, .symbol false), (0x3400, .letter), (0x4DC0, .symbol false),
    (0x4E00, .letter)
  ]

/-- Where the categories of the code points from A000 to 10000 begin, in hexadecimal. -/
def highCategories : Array (Nat × Category) := #[
    (0xA48D, .other), (0xA490, .symbol false), (0xA4C7, .other), (0xA4D0, .letter),
    (0xA4FE, .punctuation), (0xA500, .letter), (0xA60D, .punctuation), (0xA610, .letter),
    (0xA620, .digit), (0xA62A, .letter), (0xA62C, .other), (0xA640, .letter),
    (0xA66F, .mark false true), (0xA673, .punctuation), (0xA674, .mark true true),
    (0xA67C, .mark false true), (0xA67E, .punctuation), (0xA67F, .letter),
    (0xA69E, .mark true true), (0xA6A0, .letter), (0xA6E6, .letterNumber),
    (0xA6F0, .mark false true), (0xA6F2, .punctuation), (0xA6F8, .other), (0xA700, .symbol false),
    (0xA717, .letter), (0xA720, .symbol false), (0xA722, .letter), (0xA789, .symbol false),
    (0xA78B, .letter), (0xA7DD, .other), (0xA7F1, .letter), (0xA802, .mark true true),
    (0xA803, .letter), (0xA806, .mark false true), (0xA807, .letter), (0xA80B, .mark true true),
    (0xA80C, .letter), (0xA823, .mark true false), (0xA825, .mark true true),
    (0xA827, .mark true false), (0xA828, .symbol false), (0xA82C, .mark false true),
    (0xA82D, .other), (0xA830, .otherNumber), (0xA836, .symbol false), (0xA83A, .other),
    (0xA840, .letter), (0xA874, .punctuation), (0xA878, .other), (0xA880, .mark true false),
    (0xA882, .letter), (0xA8B4, .mark true false), (0xA8C4, .mark false true),
    (0xA8C5, .mark true true), (0xA8C6, .other), (0xA8CE, .punctuation), (0xA8D0, .digit),
    (0xA8DA, .other), (0xA8E0, .mark false true), (0xA8F2, .letter), (0xA8F8, .punctuation),
    (0xA8FB, .letter), (0xA8FC, .punctuation), (0xA8FD, .letter), (0xA8FF, .mark true true),
    (0xA900, .digit), (0xA90A, .letter), (0xA926, .mark true true), (0xA92B, .mark false true),
    (0xA92E, .punctuation), (0xA930, .letter), (0xA947, .mark true true),
    (0xA952, .mark true false), (0xA953, .mark false true), (0xA954, .other),
    (0xA95F, .punctuation), (0xA960, .letter), (0xA97D, .other), (0xA980, .mark true true),
    (0xA983, .mark true false), (0xA984, .letter), (0xA9B3, .mark false true),
    (0xA9B4, .mark true false), (0xA9B6, .mark true true), (0xA9BA, .mark true false),
    (0xA9BC, .mark true true), (0xA9BE, .mark true false), (0xA9C0, .mark false true),
    (0xA9C1, .punctuation), (0xA9CE, .other), (0xA9CF, .letter), (0xA9D0, .digit),
    (0xA9DA, .other), (0xA9DE, .punctuation), (0xA9E0, .letter), (0xA9E5, .mark true true),
    (0xA9E6, .letter), (0xA9F0, .digit), (0xA9FA, .letter), (0xA9FF, .other), (0xAA00, .letter),
    (0xAA29, .mark true true), (0xAA2F, .mark true false), (0xAA31, .mark true true),
    (0xAA33, .mark true false), (0xAA35, .mark true true), (0xAA37, .other), (0xAA40, .letter),
    (0xAA43, .mark true true), (0xAA44, .letter), (0xAA4C, .mark true true),
    (0xAA4D, .mark true false), (0xAA4E, .other), (0xAA50, .digit), (0xAA5A, .other),
    (0xAA5C, .punctuation), (0xAA60, .letter), (0xAA77, .symbol false), (0xAA7A, .letter),
    (0xAA7B, .mark true false), (0xAA7C, .mark true true), (0xAA7D, .mark true false),
    (0xAA7E, .letter), (0xAAB0, .mark true true), (0xAAB1, .letter), (0xAAB2, .mark true true),
    (0xAAB5, .letter), (0xAAB7, .mark true true), (0xAAB9, .letter), (0xAABE, .mark true true),
    (0xAABF, .mark false true), (0xAAC0, .letter), (0xAAC1, .mark false true), (0xAAC2, .letter),
    (0xAAC3, .other), (0xAADB, .letter), (0xAADE, .punctuation), (0xAAE0, .letter),
    (0xAAEB, .mark true false), (0xAAEC, .mark true true), (0xAAEE, .mark true false),
    (0xAAF0, .punctuation), (0xAAF2, .letter), (0xAAF5, .mark true false),
    (0xAAF6, .mark false true), (0xAAF7, .other), (0xAB01, .letter), (0xAB07, .other),
    (0xAB09, .letter), (0xAB0F, .other), (0xAB11, .letter), (0xAB17, .other), (0xAB20, .letter),
    (0xAB27, .other), (0xAB28, .letter), (0xAB2F, .other), (0xAB30, .letter),
    (0xAB5B, .symbol false), (0xAB5C, .letter), (0xAB6A, .symbol false), (0xAB6C, .other),
    (0xAB70, .letter), (0xABE3, .mark true false), (0xABE5, .mark true true),
    (0xABE6, .mark true false), (0xABE8, .mark true true), (0xABE9, .mark true false),
    (0xABEB, .punctuation), (0xABEC, .mark false false), (0xABED, .mark false true),
    (0xABEE, .other), (0xABF0, .digit), (0xABFA, .other), (0xAC00, .letter), (0xD7A4, .other),
    (0xD7B0, .letter), (0xD7C7, .other), (0xD7CB, .letter), (0xD7FC, .other), (0xF900, .letter),
    (0xFA6E, .other), (0xFA70, .letter), (0xFADA, .other), (0xFB00, .letter), (0xFB07, .other),
    (0xFB13, .letter), (0xFB18, .other), (0xFB1D, .letter), (0xFB1E, .mark true true),
    (0xFB1F, .letter), (0xFB29, .symbol false), (0xFB2A, .letter), (0xFB37, .other),
    (0xFB38, .letter), (0xFB3D, .other), (0xFB3E, .letter), (0xFB3F, .other), (0xFB40, .letter),
    (0xFB42, .other), (0xFB43, .letter), (0xFB45, .other), (0xFB46, .letter),
    (0xFBB2, .symbol false), (0xFBD3, .letter), (0xFD3E, .punctuation), (0xFD40, .symbol false),
    (0xFD50, .letter), (0xFD90, .symbol false), (0xFD92, .letter), (0xFDC8, .symbol false),
    (0xFDD0, .other), (0xFDF0, .letter), (0xFDFC, .symbol false), (0xFE00, .mark false true),
    (0xFE10, .punctuation), (0xFE1A, .other), (0xFE20, .mark false true), (0xFE30, .punctuation),
    (0xFE33, .connector), (0xFE35, .punctuation), (0xFE4D, .connector), (0xFE50, .punctuation),
    (0xFE53, .other), (0xFE54, .punctuation), (0xFE62, .symbol false), (0xFE63, .punctuation),
    (0xFE64, .symbol false), (0xFE67, .other), (0xFE68, .punctuation), (0xFE69, .symbol false),
    (0xFE6A, .punctuation), (0xFE6C, .other), (0xFE70, .letter), (0xFE75, .other),
    (0xFE76, .letter), (0xFEFD, .other), (0xFF01, .punctuation), (0xFF04, .symbol false),
    (0xFF05, .punctuation), (0xFF0B, .symbol false), (0xFF0C, .punctuation), (0xFF10, .digit),
    (0xFF1A, .punctuation), (0xFF1C, .symbol false), (0xFF1F, .punctuation), (0xFF21, .letter),
    (0xFF3B, .punctuation), (0xFF3E, .symbol false), (0xFF3F, .connector),
    (0xFF40, .symbol false), (0xFF41, .letter), (0xFF5B, .punctuation), (0xFF5C, .symbol false),
    (0xFF5D, .punctuation), (0xFF5E, .symbol false), (0xFF5F, .punctuation), (0xFF66, .letter),
    (0xFFBF, .other), (0xFFC2, .letter), (0xFFC8, .other), (0xFFCA, .letter), (0xFFD0, .other),
    (0xFFD2, .letter), (0xFFD8, .other), (0xFFDA, .letter), (0xFFDD, .other),
    (0xFFE0, .symbol false), (0xFFE7, .other), (0xFFE8, .symbol false), (0xFFEF, .other),
    (0xFFFC, .symbol false), (0xFFFE, .other)
  ]

/-- Where the categories of the code points from 10000 to 12000 begin, in hexadecimal. -/
def ancientCategories : Array (Nat × Category) := #[
    (0x10000, .letter), (0x1000C, .other), (0x1000D, .letter), (0x10027, .other),
    (0x10028, .letter), (0x1003B, .other), (0x1003C, .letter), (0x1003E, .other),
    (0x1003F, .letter), (0x1004E, .other), (0x10050, .letter), (0x1005E, .other),
    (0x10080, .letter), (0x100FB, .other), (0x10100, .punctuation), (0x10103, .other),
    (0x10107, .otherNumber), (0x10134, .other), (0x10137, .symbol false),
    (0x10140, .letterNumber), (0x10175, .otherNumber), (0x10179, .symbol false),
    (0x1018A, .otherNumber), (0x1018C, .symbol false), (0x1018F, .other),
    (0x10190, .symbol false), (0x1019D, .other), (0x101A0, .symbol false), (0x101A1, .other),
    (0x101D0, .symbol false), (0x101FD, .mark false true), (0x101FE, .other), (0x10280, .letter),
    (0x1029D, .other), (0x102A0, .letter), (0x102D1, .other), (0x102E0, .mark false true),
    (0x102E1, .otherNumber), (0x102FC, .other), (0x10300, .letter), (0x10320, .otherNumber),
    (0x10324, .other), (0x1032D, .letter), (0x10341, .letterNumber), (0x10342, .letter),
    (0x1034A, .letterNumber), (0x1034B, .other), (0x10350, .letter), (0x10376, .mark true true),
    (0x1037B, .other), (0x10380, .letter), (0x1039E, .other), (0x1039F, .punctuation),
    (0x103A0, .letter), (0x103C4, .other), (0x103C8, .letter), (0x103D0, .punctuation),
    (0x103D1, .letterNumber), (0x103D6, .other), (0x10400, .letter), (0x1049E, .other),
    (0x104A0, .digit), (0x104AA, .other), (0x104B0, .letter), (0x104D4, .other),
    (0x104D8, .letter), (0x104FC, .other), (0x10500, .letter), (0x10528, .other),
    (0x10530, .letter), (0x10564, .other), (0x1056F, .punctuation), (0x10570, .letter),
    (0x1057B, .other), (0x1057C, .letter), (0x1058B, .other), (0x1058C, .letter),
    (0x10593, .other), (0x10594, .letter), (0x10596, .other), (0x10597, .letter),
    (0x105A2, .other), (0x105A3, .letter), (0x105B2, .other), (0x105B3, .letter),
    (0x105BA, .other), (0x105BB, .letter), (0x105BD, .other), (0x105C0, .letter),
    (0x105F4, .other), (0x10600, .letter), (0x10737, .other), (0x10740, .letter),
    (0x10756, .other), (0x10760, .letter), (0x10768, .other), (0x10780, .letter),
    (0x10786, .other), (0x10787, .letter), (0x107B1, .other), (0x107B2, .letter),
    (0x107BB, .other), (0x10800, .letter), (0x10806, .other), (0x10808, .letter),
    (0x10809, .other), (0x1080A, .letter), (0x10836, .other), (0x10837, .letter),
    (0x10839, .other), (0x1083C, .letter), (0x1083D, .other), (0x1083F, .letter),
    (0x10856, .other), (0x10857, .punctuation), (0x10858, .otherNumber), (0x10860, .letter),
    (0x10877, .symbol false), (0x10879, .otherNumber), (0x10880, .letter), (0x1089F, .other),
    (0x108A7, .otherNumber), (0x108B0, .other), (0x108E0, .letter), (0x108F3, .other),
    (0x108F4, .letter), (0x108F6, .other), (0x108FB, .otherNumber), (0x10900, .letter),
    (0x10916, .otherNumber), (0x1091C, .other), (0x1091F, .punctuation), (0x10920, .letter),
    (0x1093A, .other), (0x1093F, .punctuation), (0x10940, .letter), (0x1095A, .other),
    (0x10980, .letter), (0x109B8, .other), (0x109BC, .otherNumber), (0x109BE, .letter),
    (0x109C0, .otherNumber), (0x109D0, .other), (0x109D2, .otherNumber), (0x10A00, .letter),
    (0x10A01, .mark true true), (0x10A04, .other), (0x10A05, .mark true true), (0x10A07, .other),
    (0x10A0C, .mark true true), (0x10A10, .letter), (0x10A14, .other), (0x10A15, .letter),
    (0x10A18, .other), (0x10A19, .letter), (0x10A36, .other), (0x10A38, .mark false true),
    (0x10A3B, .other), (0x10A3F, .mark false true), (0x10A40, .otherNumber), (0x10A49, .other),
    (0x10A50, .punctuation), (0x10A59, .other), (0x10A60, .letter), (0x10A7D, .otherNumber),
    (0x10A7F, .punctuation), (0x10A80, .letter), (0x10A9D, .otherNumber), (0x10AA0, .other),
    (0x10AC0, .letter), (0x10AC8, .symbol false), (0x10AC9, .letter), (0x10AE5, .mark false true),
    (0x10AE7, .other), (0x10AEB, .otherNumber), (0x10AF0, .punctuation), (0x10AF7, .other),
    (0x10B00, .letter), (0x10B36, .other), (0x10B39, .punctuation), (0x10B40, .letter),
    (0x10B56, .other), (0x10B58, .otherNumber), (0x10B60, .letter), (0x10B73, .other),
    (0x10B78, .otherNumber), (0x10B80, .letter), (0x10B92, .other), (0x10B99, .punctuation),
    (0x10B9D, .other), (0x10BA9, .otherNumber), (0x10BB0, .other), (0x10C00, .letter),
    (0x10C49, .other), (0x10C80, .letter), (0x10CB3, .other), (0x10CC0, .letter),
    (0x10CF3, .other), (0x10CFA, .otherNumber), (0x10D00, .letter), (0x10D24, .mark true true),
    (0x10D28, .other), (0x10D30, .digit), (0x10D3A, .other), (0x10D40, .digit),
    (0x10D4A, .letter), (0x10D66, .other), (0x10D69, .mark true true),
    (0x10D6A, .mark false true), (0x10D6E, .punctuation), (0x10D6F, .letter), (0x10D86, .other),
    (0x10D8E, .symbol false), (0x10D90, .other), (0x10E60, .otherNumber), (0x10E7F, .other),
    (0x10E80, .letter), (0x10EAA, .other), (0x10EAB, .mark true true), (0x10EAD, .punctuation),
    (0x10EAE, .other), (0x10EB0, .letter), (0x10EB2, .other), (0x10EC2, .letter),
    (0x10EC8, .other), (0x10ED0, .punctuation), (0x10ED1, .symbol false), (0x10ED9, .other),
    (0x10EFA, .mark true true), (0x10EFD, .mark false true), (0x10F00, .letter),
    (0x10F1D, .otherNumber), (0x10F27, .letter), (0x10F28, .other), (0x10F30, .letter),
    (0x10F46, .mark false true), (0x10F51, .otherNumber), (0x10F55, .punctuation),
    (0x10F5A, .other), (0x10F70, .letter), (0x10F82, .mark false true), (0x10F86, .punctuation),
    (0x10F8A, .other), (0x10FB0, .letter), (0x10FC5, .otherNumber), (0x10FCC, .other),
    (0x10FE0, .letter), (0x10FF7, .other), (0x11000, .mark true false),
    (0x11001, .mark true true), (0x11002, .mark true false), (0x11003, .letter),
    (0x11038, .mark true true), (0x11046, .mark false true), (0x11047, .punctuation),
    (0x1104E, .other), (0x11052, .otherNumber), (0x11066, .digit), (0x11070, .mark false true),
    (0x11071, .letter), (0x11073, .mark true true), (0x11075, .letter), (0x11076, .other),
    (0x1107F, .mark false true), (0x11080, .mark true true), (0x11082, .mark true false),
    (0x11083, .letter), (0x110B0, .mark true false), (0x110B3, .mark true true),
    (0x110B7, .mark true false), (0x110B9, .mark false true), (0x110BB, .punctuation),
    (0x110BD, .other), (0x110BE, .punctuation), (0x110C2, .mark true true), (0x110C3, .other),
    (0x110D0, .letter), (0x110E9, .other), (0x110F0, .digit), (0x110FA, .other),
    (0x11100, .mark true true), (0x11103, .letter), (0x11127, .mark true true),
    (0x1112C, .mark true false), (0x1112D, .mark true true), (0x11133, .mark false true),
    (0x11135, .other), (0x11136, .digit), (0x11140, .punctuation), (0x11144, .letter),
    (0x11145, .mark true false), (0x11147, .letter), (0x11148, .other), (0x11150, .letter),
    (0x11173, .mark false true), (0x11174, .punctuation), (0x11176, .letter), (0x11177, .other),
    (0x11180, .mark true true), (0x11182, .mark true false), (0x11183, .letter),
    (0x111B3, .mark true false), (0x111B6, .mark true true), (0x111BF, .mark true false),
    (0x111C0, .mark false true), (0x111C1, .letter), (0x111C5, .punctuation),
    (0x111C9, .mark false true), (0x111CD, .punctuation), (0x111CE, .mark true false),
    (0x111CF, .mark true true), (0x111D0, .digit), (0x111DA, .letter), (0x111DB, .punctuation),
    (0x111DC, .letter), (0x111DD, .punctuation), (0x111E0, .other), (0x111E1, .otherNumber),
    (0x111F5, .other), (0x11200, .letter), (0x11212, .other), (0x11213, .letter),
    (0x1122C, .mark true false), (0x1122F, .mark true true), (0x11232, .mark true false),
    (0x11234, .mark true true), (0x11235, .mark false true), (0x11237, .mark true true),
    (0x11238, .punctuation), (0x1123E, .mark true true), (0x1123F, .letter),
    (0x11241, .mark true true), (0x11242, .other), (0x11280, .letter), (0x11287, .other),
    (0x11288, .letter), (0x11289, .other), (0x1128A, .letter), (0x1128E, .other),
    (0x1128F, .letter), (0x1129E, .other), (0x1129F, .letter), (0x112A9, .punctuation),
    (0x112AA, .other), (0x112B0, .letter), (0x112DF, .mark true true),
    (0x112E0, .mark true false), (0x112E3, .mark true true), (0x112E9, .mark false true),
    (0x112EB, .other), (0x112F0, .digit), (0x112FA, .other), (0x11300, .mark true true),
    (0x11302, .mark true false), (0x11304, .other), (0x11305, .letter), (0x1130D, .other),
    (0x1130F, .letter), (0x11311, .other), (0x11313, .letter), (0x11329, .other),
    (0x1132A, .letter), (0x11331, .other), (0x11332, .letter), (0x11334, .other),
    (0x11335, .letter), (0x1133A, .other), (0x1133B, .mark false true), (0x1133D, .letter),
    (0x1133E, .mark true true), (0x1133F, .mark true false), (0x11340, .mark true true),
    (0x11341, .mark true false), (0x11345, .other), (0x11347, .mark true false),
    (0x11349, .other), (0x1134B, .mark true false), (0x1134D, .mark false true),
    (0x1134E, .other), (0x11350, .letter), (0x11351, .other), (0x11357, .mark true true),
    (0x11358, .other), (0x1135D, .letter), (0x11362, .mark true false), (0x11364, .other),
    (0x11366, .mark false true), (0x1136D, .other), (0x11370, .mark false true),
    (0x11375, .other), (0x11380, .letter), (0x1138A, .other), (0x1138B, .letter),
    (0x1138C, .other), (0x1138E, .letter), (0x1138F, .other), (0x11390, .letter),
    (0x113B6, .other), (0x113B7, .letter), (0x113B8, .mark true true),
    (0x113B9, .mark true false), (0x113BB, .mark true true), (0x113C1, .other),
    (0x113C2, .mark true true), (0x113C3, .other), (0x113C5, .mark true true), (0x113C6, .other),
    (0x113C7, .mark true true), (0x113CA, .mark true false), (0x113CB, .other),
    (0x113CC, .mark true false), (0x113CE, .mark false true), (0x113D1, .letter),
    (0x113D2, .mark false true), (0x113D3, .letter), (0x113D4, .punctuation), (0x113D6, .other),
    (0x113D7, .punctuation), (0x113D9, .other), (0x113E1, .mark false true), (0x113E3, .other),
    (0x11400, .letter), (0x11435, .mark true false), (0x11438, .mark true true),
    (0x11440, .mark true false), (0x11442, .mark false true), (0x11443, .mark true true),
    (0x11445, .mark true false), (0x11446, .mark false true), (0x11447, .letter),
    (0x1144B, .punctuation), (0x11450, .digit), (0x1145A, .punctuation), (0x1145C, .other),
    (0x1145D, .punctuation), (0x1145E, .mark false true), (0x1145F, .letter), (0x11462, .other),
    (0x11480, .letter), (0x114B0, .mark true true), (0x114B1, .mark true false),
    (0x114B3, .mark true true), (0x114B9, .mark true false), (0x114BA, .mark true true),
    (0x114BB, .mark true false), (0x114BD, .mark true true), (0x114BE, .mark true false),
    (0x114BF, .mark true true), (0x114C1, .mark true false), (0x114C2, .mark false true),
    (0x114C4, .letter), (0x114C6, .punctuation), (0x114C7, .letter), (0x114C8, .other),
    (0x114D0, .digit), (0x114DA, .other), (0x11580, .letter), (0x115AF, .mark true true),
    (0x115B0, .mark true false), (0x115B2, .mark true true), (0x115B6, .other),
    (0x115B8, .mark true false), (0x115BC, .mark true true), (0x115BE, .mark true false),
    (0x115BF, .mark false true), (0x115C1, .punctuation), (0x115D8, .letter),
    (0x115DC, .mark true true), (0x115DE, .other), (0x11600, .letter),
    (0x11630, .mark true false), (0x11633, .mark true true), (0x1163B, .mark true false),
    (0x1163D, .mark true true), (0x1163E, .mark true false), (0x1163F, .mark false true),
    (0x11640, .mark true true), (0x11641, .punctuation), (0x11644, .letter), (0x11645, .other),
    (0x11650, .digit), (0x1165A, .other), (0x11660, .punctuation), (0x1166D, .other),
    (0x11680, .letter), (0x116AB, .mark true true), (0x116AC, .mark true false),
    (0x116AD, .mark true true), (0x116AE, .mark true false), (0x116B0, .mark true true),
    (0x116B6, .mark false true), (0x116B8, .letter), (0x116B9, .punctuation), (0x116BA, .other),
    (0x116C0, .digit), (0x116CA, .other), (0x116D0, .digit), (0x116E4, .other),
    (0x11700, .letter), (0x1171B, .other), (0x1171D, .mark true true),
    (0x1171E, .mark true false), (0x1171F, .mark true true), (0x11720, .mark true false),
    (0x11722, .mark true true), (0x11726, .mark true false), (0x11727, .mark true true),
    (0x1172B, .mark false true), (0x1172C, .other), (0x11730, .digit), (0x1173A, .otherNumber),
    (0x1173C, .punctuation), (0x1173F, .symbol false), (0x11740, .letter), (0x11747, .other),
    (0x11800, .letter), (0x1182C, .mark true false), (0x1182F, .mark true true),
    (0x11838, .mark true false), (0x11839, .mark false true), (0x1183B, .punctuation),
    (0x1183C, .other), (0x118A0, .letter), (0x118E0, .digit), (0x118EA, .otherNumber),
    (0x118F3, .other), (0x118FF, .letter), (0x11907, .other), (0x11909, .letter),
    (0x1190A, .other), (0x1190C, .letter), (0x11914, .other), (0x11915, .letter),
    (0x11917, .other), (0x11918, .letter), (0x11930, .mark true true),
    (0x11931, .mark true false), (0x11936, .other), (0x11937, .mark true false),
    (0x11939, .other), (0x1193B, .mark true true), (0x1193D, .mark false true),
    (0x1193F, .letter), (0x11940, .mark true false), (0x11941, .letter),
    (0x11942, .mark true false), (0x11943, .mark false true), (0x11944, .punctuation),
    (0x11947, .other), (0x11950, .digit), (0x1195A, .other), (0x119A0, .letter),
    (0x119A8, .other), (0x119AA, .letter), (0x119D1, .mark true false),
    (0x119D4, .mark true true), (0x119D8, .other), (0x119DA, .mark true true),
    (0x119DC, .mark true false), (0x119E0, .mark false true), (0x119E1, .letter),
    (0x119E2, .punctuation), (0x119E3, .letter), (0x119E4, .mark true false), (0x119E5, .other),
    (0x11A00, .letter), (0x11A01, .mark true true), (0x11A0B, .letter),
    (0x11A33, .mark false true), (0x11A35, .mark true true), (0x11A39, .mark true false),
    (0x11A3A, .letter), (0x11A3B, .mark true true), (0x11A3F, .punctuation),
    (0x11A47, .mark false true), (0x11A48, .other), (0x11A50, .letter),
    (0x11A51, .mark true true), (0x11A57, .mark true false), (0x11A59, .mark true true),
    (0x11A5C, .letter), (0x11A8A, .mark true true), (0x11A97, .mark true false),
    (0x11A98, .mark false true), (0x11A9A, .punctuation), (0x11A9D, .letter),
    (0x11A9E, .punctuation), (0x11AA3, .other), (0x11AB0, .letter), (0x11AF9, .other),
    (0x11B00, .punctuation), (0x11B0A, .other), (0x11B60, .mark true true),
    (0x11B61, .mark true false), (0x11B62, .mark true true), (0x11B65, .mark true false),
    (0x11B66, .mark true true), (0x11B67, .mark true false), (0x11B68, .other),
    (0x11BC0, .letter), (0x11BE1, .punctuation), (0x11BE2, .other), (0x11BF0, .digit),
    (0x11BFA, .other), (0x11C00, .letter), (0x11C09, .other), (0x11C0A, .letter),
    (0x11C2F, .mark true false), (0x11C30, .mark true true), (0x11C37, .other),
    (0x11C38, .mark true true), (0x11C3E, .mark true false), (0x11C3F, .mark false true),
    (0x11C40, .letter), (0x11C41, .punctuation), (0x11C46, .other), (0x11C50, .digit),
    (0x11C5A, .otherNumber), (0x11C6D, .other), (0x11C70, .punctuation), (0x11C72, .letter),
    (0x11C90, .other), (0x11C92, .mark true true), (0x11CA8, .other), (0x11CA9, .mark true false),
    (0x11CAA, .mark true true), (0x11CB1, .mark true false), (0x11CB2, .mark true true),
    (0x11CB4, .mark true false), (0x11CB5, .mark true true), (0x11CB7, .other),
    (0x11D00, .letter), (0x11D07, .other), (0x11D08, .letter), (0x11D0A, .other),
    (0x11D0B, .letter), (0x11D31, .mark true true), (0x11D37, .other), (0x11D3A, .mark true true),
    (0x11D3B, .other), (0x11D3C, .mark true true), (0x11D3E, .other), (0x11D3F, .mark true true),
    (0x11D42, .mark false true), (0x11D43, .mark true true), (0x11D44, .mark false true),
    (0x11D46, .letter), (0x11D47, .mark true true), (0x11D48, .other), (0x11D50, .digit),
    (0x11D5A, .other), (0x11D60, .letter), (0x11D66, .other), (0x11D67, .letter),
    (0x11D69, .other), (0x11D6A, .letter), (0x11D8A, .mark true false), (0x11D8F, .other),
    (0x11D90, .mark true true), (0x11D92, .other), (0x11D93, .mark true false),
    (0x11D95, .mark true true), (0x11D96, .mark true false), (0x11D97, .mark false true),
    (0x11D98, .letter), (0x11D99, .other), (0x11DA0, .digit), (0x11DAA, .other),
    (0x11DB0, .letter), (0x11DDC, .other), (0x11DE0, .digit), (0x11DEA, .other),
    (0x11EE0, .letter), (0x11EF3, .mark true true), (0x11EF5, .mark true false),
    (0x11EF7, .punctuation), (0x11EF9, .other), (0x11F00, .mark true true), (0x11F02, .letter),
    (0x11F03, .mark true false), (0x11F04, .letter), (0x11F11, .other), (0x11F12, .letter),
    (0x11F34, .mark true false), (0x11F36, .mark true true), (0x11F3B, .other),
    (0x11F3E, .mark true false), (0x11F40, .mark true true), (0x11F41, .mark false true),
    (0x11F43, .punctuation), (0x11F50, .digit), (0x11F5A, .mark false true), (0x11F5B, .other),
    (0x11FB0, .letter), (0x11FB1, .other), (0x11FC0, .otherNumber), (0x11FD5, .symbol false),
    (0x11FF2, .other), (0x11FFF, .punctuation)
  ]

/-- Where the categories of the code points from 12000 on begin, in hexadecimal. -/
def lateCategories : Array (Nat × Category) := #[
    (0x12000, .letter), (0x1239A, .other), (0x12400, .letterNumber), (0x1246F, .other),
    (0x12470, .punctuation), (0x12475, .other), (0x12480, .letter), (0x12544, .other),
    (0x12F90, .letter), (0x12FF1, .punctuation), (0x12FF3, .other), (0x13000, .letter),
    (0x13430, .other), (0x13440, .mark false true), (0x13441, .letter),
    (0x13447, .mark false true), (0x13456, .other), (0x13460, .letter), (0x143FB, .other),
    (0x14400, .letter), (0x14647, .other), (0x16100, .letter), (0x1611E, .mark true true),
    (0x1612A, .mark true false), (0x1612D, .mark true true), (0x1612F, .mark false true),
    (0x16130, .digit), (0x1613A, .other), (0x16800, .letter), (0x16A39, .other),
    (0x16A40, .letter), (0x16A5F, .other), (0x16A60, .digit), (0x16A6A, .other),
    (0x16A6E, .punctuation), (0x16A70, .letter), (0x16ABF, .other), (0x16AC0, .digit),
    (0x16ACA, .other), (0x16AD0, .letter), (0x16AEE, .other), (0x16AF0, .mark false true),
    (0x16AF5, .punctuation), (0x16AF6, .other), (0x16B00, .letter), (0x16B30, .mark false true),
    (0x16B37, .punctuation), (0x16B3C, .symbol false), (0x16B40, .letter),
    (0x16B44, .punctuation), (0x16B45, .symbol false), (0x16B46, .other), (0x16B50, .digit),
    (0x16B5A, .other), (0x16B5B, .otherNumber), (0x16B62, .other), (0x16B63, .letter),
    (0x16B78, .other), (0x16B7D, .letter), (0x16B90, .other), (0x16D40, .letter),
    (0x16D6D, .punctuation), (0x16D70, .digit), (0x16D7A, .other), (0x16E40, .letter),
    (0x16E80, .otherNumber), (0x16E97, .punctuation), (0x16E9B, .other), (0x16EA0, .letter),
    (0x16EB9, .other), (0x16EBB, .letter), (0x16ED4, .other), (0x16F00, .letter),
    (0x16F4B, .other), (0x16F4F, .mark true true), (0x16F50, .letter),
    (0x16F51, .mark true false), (0x16F88, .other), (0x16F8F, .mark true true),
    (0x16F93, .letter), (0x16FA0, .other), (0x16FE0, .letter), (0x16FE2, .punctuation),
    (0x16FE3, .letter), (0x16FE4, .mark false true), (0x16FE5, .other),
    (0x16FF0, .mark true true), (0x16FF2, .letter), (0x16FF4, .letterNumber), (0x16FF7, .other),
    (0x17000, .letter), (0x18CD6, .other), (0x18CFF, .letter), (0x18D1F, .other),
    (0x18D80, .letter), (0x18DF3, .other), (0x1AFF0, .letter), (0x1AFF4, .other),
    (0x1AFF5, .letter), (0x1AFFC, .other), (0x1AFFD, .letter), (0x1AFFF, .other),
    (0x1B000, .letter), (0x1B123, .other), (0x1B132, .letter), (0x1B133, .other),
    (0x1B150, .letter), (0x1B153, .other), (0x1B155, .letter), (0x1B156, .other),
    (0x1B164, .letter), (0x1B168, .other), (0x1B170, .letter), (0x1B2FC, .other),
    (0x1BC00, .letter), (0x1BC6B, .other), (0x1BC70, .letter), (0x1BC7D, .other),
    (0x1BC80, .letter), (0x1BC89, .other), (0x1BC90, .letter), (0x1BC9A, .other),
    (0x1BC9C, .symbol false), (0x1BC9D, .mark false true), (0x1BC9E, .mark true true),
    (0x1BC9F, .punctuation), (0x1BCA0, .other), (0x1CC00, .symbol false), (0x1CCF0, .digit),
    (0x1CCFA, .symbol false), (0x1CCFD, .other), (0x1CD00, .symbol false), (0x1CEB4, .other),
    (0x1CEBA, .symbol false), (0x1CED1, .other), (0x1CEE0, .symbol false), (0x1CEF1, .other),
    (0x1CF00, .mark false true), (0x1CF2E, .other), (0x1CF30, .mark false true),
    (0x1CF47, .other), (0x1CF50, .symbol false), (0x1CFC4, .other), (0x1D000, .symbol false),
    (0x1D0F6, .other), (0x1D100, .symbol false), (0x1D127, .other), (0x1D129, .symbol false),
    (0x1D165, .mark false true), (0x1D16A, .symbol false), (0x1D16D, .mark false true),
    (0x1D173, .other), (0x1D17B, .mark false true), (0x1D183, .symbol false),
    (0x1D185, .mark false true), (0x1D18C, .symbol false), (0x1D1AA, .mark false true),
    (0x1D1AE, .symbol false), (0x1D1EB, .other), (0x1D200, .symbol false),
    (0x1D242, .mark false true), (0x1D245, .symbol false), (0x1D246, .other),
    (0x1D2C0, .otherNumber), (0x1D2D4, .other), (0x1D2E0, .otherNumber), (0x1D2F4, .other),
    (0x1D300, .symbol false), (0x1D357, .other), (0x1D360, .otherNumber), (0x1D379, .other),
    (0x1D400, .letter), (0x1D455, .other), (0x1D456, .letter), (0x1D49D, .other),
    (0x1D49E, .letter), (0x1D4A0, .other), (0x1D4A2, .letter), (0x1D4A3, .other),
    (0x1D4A5, .letter), (0x1D4A7, .other), (0x1D4A9, .letter), (0x1D4AD, .other),
    (0x1D4AE, .letter), (0x1D4BA, .other), (0x1D4BB, .letter), (0x1D4BC, .other),
    (0x1D4BD, .letter), (0x1D4C4, .other), (0x1D4C5, .letter), (0x1D506, .other),
    (0x1D507, .letter), (0x1D50B, .other), (0x1D50D, .letter), (0x1D515, .other),
    (0x1D516, .letter), (0x1D51D, .other), (0x1D51E, .letter), (0x1D53A, .other),
    (0x1D53B, .letter), (0x1D53F, .other), (0x1D540, .letter), (0x1D545, .other),
    (0x1D546, .letter), (0x1D547, .other), (0x1D54A, .letter), (0x1D551, .other),
    (0x1D552, .letter), (0x1D6A6, .other), (0x1D6A8, .letter), (0x1D6C1, .symbol false),
    (0x1D6C2, .letter), (0x1D6DB, .symbol false), (0x1D6DC, .letter), (0x1D6FB, .symbol false),
    (0x1D6FC, .letter), (0x1D715, .symbol false), (0x1D716, .letter), (0x1D735, .symbol false),
    (0x1D736, .letter), (0x1D74F, .symbol false), (0x1D750, .letter), (0x1D76F, .symbol false),
    (0x1D770, .letter), (0x1D789, .symbol false), (0x1D78A, .letter), (0x1D7A9, .symbol false),
    (0x1D7AA, .letter), (0x1D7C3, .symbol false), (0x1D7C4, .letter), (0x1D7CC, .other),
    (0x1D7CE, .digit), (0x1D800, .symbol false), (0x1DA00, .mark false true),
    (0x1DA37, .symbol false), (0x1DA3B, .mark false true), (0x1DA6D, .symbol false),
    (0x1DA75, .mark false true), (0x1DA76, .symbol false), (0x1DA84, .mark false true),
    (0x1DA85, .symbol false), (0x1DA87, .punctuation), (0x1DA8C, .other),
    (0x1DA9B, .mark false true), (0x1DAA0, .other), (0x1DAA1, .mark false true),
    (0x1DAB0, .other), (0x1DF00, .letter), (0x1DF1F, .other), (0x1DF25, .letter),
    (0x1DF2B, .other), (0x1E000, .mark true true), (0x1E007, .other), (0x1E008, .mark true true),
    (0x1E019, .other), (0x1E01B, .mark true true), (0x1E022, .other), (0x1E023, .mark true true),
    (0x1E025, .other), (0x1E026, .mark true true), (0x1E02B, .other), (0x1E030, .letter),
    (0x1E06E, .other), (0x1E08F, .mark true true), (0x1E090, .other), (0x1E100, .letter),
    (0x1E12D, .other), (0x1E130, .mark false true), (0x1E137, .letter), (0x1E13E, .other),
    (0x1E140, .digit), (0x1E14A, .other), (0x1E14E, .letter), (0x1E14F, .symbol false),
    (0x1E150, .other), (0x1E290, .letter), (0x1E2AE, .mark false true), (0x1E2AF, .other),
    (0x1E2C0, .letter), (0x1E2EC, .mark false true), (0x1E2F0, .digit), (0x1E2FA, .other),
    (0x1E2FF, .symbol false), (0x1E300, .other), (0x1E4D0, .letter), (0x1E4EC, .mark false true),
    (0x1E4F0, .digit), (0x1E4FA, .other), (0x1E5D0, .letter), (0x1E5EE, .mark false true),
    (0x1E5F0, .letter), (0x1E5F1, .digit), (0x1E5FB, .other), (0x1E5FF, .punctuation),
    (0x1E600, .other), (0x1E6C0, .letter), (0x1E6DF, .other), (0x1E6E0, .letter),
    (0x1E6E3, .mark true true), (0x1E6E4, .letter), (0x1E6E6, .mark true true),
    (0x1E6E7, .letter), (0x1E6EE, .mark true true), (0x1E6F0, .letter),
    (0x1E6F5, .mark true true), (0x1E6F6, .other), (0x1E6FE, .letter), (0x1E700, .other),
    (0x1E7E0, .letter), (0x1E7E7, .other), (0x1E7E8, .letter), (0x1E7EC, .other),
    (0x1E7ED, .letter), (0x1E7EF, .other), (0x1E7F0, .letter), (0x1E7FF, .other),
    (0x1E800, .letter), (0x1E8C5, .other), (0x1E8C7, .otherNumber), (0x1E8D0, .mark false true),
    (0x1E8D7, .other), (0x1E900, .letter), (0x1E944, .mark false true),
    (0x1E947, .mark true true), (0x1E948, .mark false true), (0x1E94B, .letter),
    (0x1E94C, .other), (0x1E950, .digit), (0x1E95A, .other), (0x1E95E, .punctuation),
    (0x1E960, .other), (0x1EC71, .otherNumber), (0x1ECAC, .symbol false), (0x1ECAD, .otherNumber),
    (0x1ECB0, .symbol false), (0x1ECB1, .otherNumber), (0x1ECB5, .other), (0x1ED01, .otherNumber),
    (0x1ED2E, .symbol false), (0x1ED2F, .otherNumber), (0x1ED3E, .other), (0x1EE00, .letter),
    (0x1EE04, .other), (0x1EE05, .letter), (0x1EE20, .other), (0x1EE21, .letter),
    (0x1EE23, .other), (0x1EE24, .letter), (0x1EE25, .other), (0x1EE27, .letter),
    (0x1EE28, .other), (0x1EE29, .letter), (0x1EE33, .other), (0x1EE34, .letter),
    (0x1EE38, .other), (0x1EE39, .letter), (0x1EE3A, .other), (0x1EE3B, .letter),
    (0x1EE3C, .other), (0x1EE42, .letter), (0x1EE43, .other), (0x1EE47, .letter),
    (0x1EE48, .other), (0x1EE49, .letter), (0x1EE4A, .other), (0x1EE4B, .letter),
    (0x1EE4C, .other), (0x1EE4D, .letter), (0x1EE50, .other), (0x1EE51, .letter),
    (0x1EE53, .other), (0x1EE54, .letter), (0x1EE55, .other), (0x1EE57, .letter),
    (0x1EE58, .other), (0x1EE59, .letter), (0x1EE5A, .other), (0x1EE5B, .letter),
    (0x1EE5C, .other), (0x1EE5D, .letter), (0x1EE5E, .other), (0x1EE5F, .letter),
    (0x1EE60, .other), (0x1EE61, .letter), (0x1EE63, .other), (0x1EE64, .letter),
    (0x1EE65, .other), (0x1EE67, .letter), (0x1EE6B, .other), (0x1EE6C, .letter),
    (0x1EE73, .other), (0x1EE74, .letter), (0x1EE78, .other), (0x1EE79, .letter),
    (0x1EE7D, .other), (0x1EE7E, .letter), (0x1EE7F, .other), (0x1EE80, .letter),
    (0x1EE8A, .other), (0x1EE8B, .letter), (0x1EE9C, .other), (0x1EEA1, .letter),
    (0x1EEA4, .other), (0x1EEA5, .letter), (0x1EEAA, .other), (0x1EEAB, .letter),
    (0x1EEBC, .other), (0x1EEF0, .symbol false), (0x1EEF2, .other), (0x1F000, .symbol false),
    (0x1F02C, .other), (0x1F030, .symbol false), (0x1F094, .other), (0x1F0A0, .symbol false),
    (0x1F0AF, .other), (0x1F0B1, .symbol false), (0x1F0C0, .other), (0x1F0C1, .symbol false),
    (0x1F0D0, .other), (0x1F0D1, .symbol false), (0x1F0F6, .other), (0x1F100, .otherNumber),
    (0x1F10D, .symbol false), (0x1F130, .symbol true), (0x1F14A, .symbol false),
    (0x1F150, .symbol true), (0x1F16A, .symbol false), (0x1F170, .symbol true),
    (0x1F18A, .symbol false), (0x1F1AE, .other), (0x1F1E6, .symbol false), (0x1F203, .other),
    (0x1F210, .symbol false), (0x1F23C, .other), (0x1F240, .symbol false), (0x1F249, .other),
    (0x1F250, .symbol false), (0x1F252, .other), (0x1F260, .symbol false), (0x1F266, .other),
    (0x1F300, .symbol false), (0x1F6D9, .other), (0x1F6DC, .symbol false), (0x1F6ED, .other),
    (0x1F6F0, .symbol false), (0x1F6FD, .other), (0x1F700, .symbol false), (0x1F7DA, .other),
    (0x1F7E0, .symbol false), (0x1F7EC, .other), (0x1F7F0, .symbol false), (0x1F7F1, .other),
    (0x1F800, .symbol false), (0x1F80C, .other), (0x1F810, .symbol false), (0x1F848, .other),
    (0x1F850, .symbol false), (0x1F85A, .other), (0x1F860, .symbol false), (0x1F888, .other),
    (0x1F890, .symbol false), (0x1F8AE, .other), (0x1F8B0, .symbol false), (0x1F8BC, .other),
    (0x1F8C0, .symbol false), (0x1F8C2, .other), (0x1F8D0, .symbol false), (0x1F8D9, .other),
    (0x1F900, .symbol false), (0x1FA58, .other), (0x1FA60, .symbol false), (0x1FA6E, .other),
    (0x1FA70, .symbol false), (0x1FA7D, .other), (0x1FA80, .symbol false), (0x1FA8B, .other),
    (0x1FA8E, .symbol false), (0x1FAC7, .other), (0x1FAC8, .symbol false), (0x1FAC9, .other),
    (0x1FACD, .symbol false), (0x1FADD, .other), (0x1FADF, .symbol false), (0x1FAEB, .other),
    (0x1FAEF, .symbol false), (0x1FAF9, .other), (0x1FB00, .symbol false), (0x1FB93, .other),
    (0x1FB94, .symbol false), (0x1FBF0, .digit), (0x1FBFA, .symbol false), (0x1FBFB, .other),
    (0x20000, .letter), (0x2A6E0, .other), (0x2A700, .letter), (0x2B81E, .other),
    (0x2B820, .letter), (0x2CEAE, .other), (0x2CEB0, .letter), (0x2EBE1, .other),
    (0x2EBF0, .letter), (0x2EE5E, .other), (0x2F800, .letter), (0x2FA1E, .other),
    (0x30000, .letter), (0x3134B, .other), (0x31350, .letter), (0x3347A, .other),
    (0xE0100, .mark false true), (0xE01F0, .other)
  ]

/-- Where the categories begin, in increasing order. -/
def categoryTable : Array (Nat × Category) :=
  lowCategories ++ middleCategories ++ highCategories ++ ancientCategories ++ lateCategories

/-- The last of `count` entries from `low` on that begins at a number or
    before it; `low` is one that does. -/
def lastEntry (table : Array (Nat × Category)) (n low count : Nat) : Nat :=
  if count ≤ 1 then low
  else
    let half := count / 2
    match table[low + half]? with
    | some (start, _) =>
      if start ≤ n then lastEntry table n (low + half) (count - half)
      else lastEntry table n low half
    | none => low
termination_by count

/-- The category of a character. -/
def category (c : Char) : Category :=
  (categoryTable.getD (lastEntry categoryTable c.toNat 0 categoryTable.size) (0, .other)).2

namespace Category

/-- The category is one of letters, numbers that are letters, and marks and
    symbols that count as such. -/
def isAlphabetic : Category → Bool
  | letter | letterNumber | mark true _ | symbol true => true
  | _ => false

/-- The category is one of numbers. -/
def isNumeric : Category → Bool
  | digit | letterNumber | otherNumber => true
  | _ => false

/-- The letter that stands for the category and those like it. -/
def initial : Category → Char
  | letter => 'L'
  | mark _ _ => 'M'
  | digit | letterNumber | otherNumber => 'N'
  | connector | punctuation => 'P'
  | symbol _ => 'S'
  | separator => 'Z'
  | other => 'C'

/-- The category is one of marks. -/
def isMark : Category → Bool
  | mark _ _ => true
  | _ => false

end Category

/-- The character is alphabetic or a number. -/
def isAlphanumeric (c : Char) : Bool :=
  (category c).isAlphabetic || (category c).isNumeric

end RenderCheck.Text
