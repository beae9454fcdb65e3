import HeaderBindings.Pattern.Property

/-!
# The latest characters

The tables of properties are those of Unicode 16.0. Where a text is read or shown for its own sake,
and not matched, the characters that Unicode 17.0 adds count as well.
-/

namespace HeaderBindings.Pattern.Property

/-- The letters that are new, and what is counted among the letters. -/
def addedLetters : CharSet :=
  ⟨[(0x88F, 0x88F), (0xC5C, 0xC5C), (0xCDC, 0xCDC), (0xA7CE, 0xA7CF), (0xA7D2, 0xA7D2),
    (0xA7D4, 0xA7D4), (0xA7F1, 0xA7F1), (0x10940, 0x10959), (0x10EC5, 0x10EC7), (0x10EFA, 0x10EFB),
    (0x11B60, 0x11B67), (0x11DB0, 0x11DDB), (0x16EA0, 0x16EB8), (0x16EBB, 0x16ED3),
    (0x16FF2, 0x16FF6), (0x187F8, 0x187FF), (0x18D09, 0x18D1E), (0x18D80, 0x18DF2),
    (0x1E6C0, 0x1E6DE), (0x1E6E0, 0x1E6F5), (0x1E6FE, 0x1E6FF), (0x2B73A, 0x2B73F),
    (0x2CEA2, 0x2CEAD), (0x323B0, 0x33479)]⟩

def addedNumbers : CharSet :=
  ⟨[(0x11DE0, 0x11DE9), (0x16FF4, 0x16FF6)]⟩

/-- The new characters that are shown as they are. -/
def addedGlyphs : CharSet :=
  ⟨[(0x88F, 0x88F), (0xC5C, 0xC5C), (0xCDC, 0xCDC), (0x20C1, 0x20C1), (0x2B96, 0x2B96),
    (0xA7CE, 0xA7CF), (0xA7D2, 0xA7D2), (0xA7D4, 0xA7D4), (0xA7F1, 0xA7F1), (0xFBC3, 0xFBD2),
    (0xFD90, 0xFD91), (0xFDC8, 0xFDCE), (0x10940, 0x10959), (0x10EC5, 0x10EC7), (0x10ED0, 0x10ED8),
    (0x11B61, 0x11B61), (0x11B65, 0x11B65), (0x11B67, 0x11B67), (0x11DB0, 0x11DDB),
    (0x11DE0, 0x11DE9), (0x16EA0, 0x16EB8), (0x16EBB, 0x16ED3), (0x16FF2, 0x16FF6),
    (0x187F8, 0x187FF), (0x18D09, 0x18D1E), (0x18D80, 0x18DF2), (0x1CCFA, 0x1CCFC),
    (0x1CEBA, 0x1CED0), (0x1CEE0, 0x1CEF0), (0x1E6C0, 0x1E6DE), (0x1E6E0, 0x1E6E2),
    (0x1E6E4, 0x1E6E5), (0x1E6E7, 0x1E6ED), (0x1E6F0, 0x1E6F4), (0x1E6FE, 0x1E6FF),
    (0x1F6D8, 0x1F6D8), (0x1F777, 0x1F77A), (0x1F8D0, 0x1F8D8), (0x1FA54, 0x1FA57),
    (0x1FA8A, 0x1FA8A), (0x1FA8E, 0x1FA8E), (0x1FAC8, 0x1FAC8), (0x1FACD, 0x1FACD),
    (0x1FAEA, 0x1FAEA), (0x1FAEF, 0x1FAEF), (0x1FBFA, 0x1FBFA), (0x2B73A, 0x2B73F),
    (0x2CEA2, 0x2CEAD), (0x323B0, 0x33479)]⟩

def letters : CharSet := (CharSet.ofToggles alphabetic).union addedLetters

def numbers : CharSet :=
  (CharSet.ofLabels categories.runs ["nd", "nl", "no"].contains).union addedNumbers

/-- The sound marks of halfwidth Katakana, which take up room of their own. -/
def soundMarks : CharSet := ⟨[(0xFF9E, 0xFF9F)]⟩

/-- The characters that are shown as they are: they have a glyph, and do not combine with what
stands in front of them. -/
def visible : CharSet :=
  let withoutGlyph :=
    CharSet.ofLabels categories.runs ["cc", "cf", "cn", "co", "zl", "zp", "zs"].contains
  let combining := (CharSet.ofToggles graphemeExtend).sdiff soundMarks
  let hidden := (withoutGlyph.union combining).union (.ofToggles defaultIgnorableCodePoint)
  -- the space counts as shown
  (hidden.sdiff (.single ' ')).compl.union addedGlyphs

end HeaderBindings.Pattern.Property
