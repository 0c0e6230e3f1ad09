import AlbumCatalog.Unicode.Table

/-!
# Characters that differ in case only

Characters that fold to the same one are variants of each other. The table gives, for each distance,
the characters that have a variant so far above them and none below.
-/

namespace AlbumCatalog

/-- The least of several variants, by the distance to another one. -/
def caseTable : List (Nat × String) := [
  (0x1,
    "100-12E/2 132-136/2 139-147/2 14A-176/2 179-17D/2 182 184 187 18B 191 198 1A0-1A4/2 1A7 1AC 1AF
1B3 1B5 1B8 1BC 1C4 1C7 1CA 1CD-1DB/2 1DE-1EE/2 1F1 1F4 1F8-21E/2 222-232/2 23B 241 246-24E/2
370 372 376 3D8-3EE/2 3F7 3FA 460-480/2 48A-4BE/2 4C1-4CD/2 4D0-52E/2 1C89 1E00-1E94/2
1EA0-1EFE/2 2183 2C60 2C67-2C6B/2 2C72 2C75 2C80-2CE2/2 2CEB 2CED 2CF2 A640-A648/2 A64C-A66C/2
A680-A69A/2 A722-A72E/2 A732-A76E/2 A779 A77B A77E-A786/2 A78B A790 A792 A796-A7A8/2 A7B4-A7C2/2
A7C7 A7C9 A7CC-A7DA/2 A7F5 FB05"),
  (0x2, "1C4 1C7 1CA 1F1"),
  (0x7, "3F2 1FE5"),
  (0x8,
    "3CF 13F0-13F5 1F00-1F07 1F10-1F15 1F20-1F27 1F30-1F37 1F40-1F45 1F51-1F57/2 1F60-1F67 1F80-1F87
1F90-1F97 1FA0-1FA7 1FB0-1FB1 1FD0-1FD1 1FE0-1FE1"),
  (0x9, "1FB3 1FC3 1FF3"),
  (0xF, "4C0"),
  (0x10, "2160-216F"),
  (0x1A, "24B6-24CF"),
  (0x1B, "16EA0-16EB8"),
  (0x1C, "2132"),
  (0x1F, "3A3"),
  (0x20,
    "41-5A C0-D6 D8-DE 391-398 39A-39B 39D-3A1 3A3-3AB 410-42F FF21-FF3A 10D50-10D65 118A0-118BF
16E40-16E5F"),
  (0x22, "1E900-1E921"),
  (0x25, "388-38A"),
  (0x26, "386"),
  (0x27, "10570-1057A 1057C-1058A 1058C-10592 10594-10595"),
  (0x28, "10400-10427 104B0-104D3"),
  (0x2F, "3A6"),
  (0x30, "531-556 2C00-2C2F A794"),
  (0x36, "3A0"),
  (0x38, "1BF"),
  (0x39, "398"),
  (0x3B, "1E60"),
  (0x3E, "392"),
  (0x3F, "38E-38F"),
  (0x40, "38C 10C80-10CB2"),
  (0x45, "244"),
  (0x47, "245"),
  (0x4A, "1F70-1F71"),
  (0x4F, "18E"),
  (0x50, "3A1 400-40F"),
  (0x54, "345"),
  (0x56, "39A 1F72-1F75"),
  (0x5C, "398"),
  (0x60, "395"),
  (0x61, "195"),
  (0x64, "1F76-1F77"),
  (0x70, "1F7A-1F7B"),
  (0x74, "345 37F"),
  (0x79, "FF"),
  (0x7E, "1F7C-1F7D"),
  (0x80, "1F78-1F79"),
  (0x82, "19E 37B-37D"),
  (0xA3, "19A"),
  (0xC3, "180"),
  (0xCA, "18F"),
  (0xCB, "190"),
  (0xCD, "189-18A 193"),
  (0xCE, "186"),
  (0xCF, "194"),
  (0xD1, "197"),
  (0xD2, "181"),
  (0xD3, "196 19C"),
  (0xD5, "19D"),
  (0xD6, "19F"),
  (0xD9, "1B1-1B2"),
  (0xDA, "1A6 1A9 1AE"),
  (0xDB, "1B7"),
  (0x12C, "53"),
  (0x2E7, "B5"),
  (0x307, "B5"),
  (0x3A0, "A7B3"),
  (0xBC0, "10D0-10FA 10FD-10FF"),
  (0xEE6, "1D7D"),
  (0x1825, "462"),
  (0x185C, "42A"),
  (0x1862, "421-422"),
  (0x1863, "422"),
  (0x1864, "41E"),
  (0x186D, "414"),
  (0x186E, "412"),
  (0x1C33, "3B0"),
  (0x1C43, "390"),
  (0x1C60, "10A0-10C5 10C7 10CD"),
  (0x1C79, "345"),
  (0x1D7D, "3A9"),
  (0x1DBF, "DF"),
  (0x2066, "C5"),
  (0x20DF, "4B"),
  (0x29E7, "27D"),
  (0x29F7, "26B"),
  (0x29FD, "271"),
  (0x2A1C, "251"),
  (0x2A1E, "252"),
  (0x2A1F, "250"),
  (0x2A28, "23E"),
  (0x2A2B, "23A"),
  (0x2A3F, "23F-240"),
  (0x89C2, "1C88"),
  (0x89C3, "1C88"),
  (0x8A04, "1D79"),
  (0x8A38, "1D8E"),
  (0x97D0, "13A0-13EF"),
  (0xA512, "29E"),
  (0xA515, "29D"),
  (0xA528, "265"),
  (0xA52A, "287"),
  (0xA541, "26C"),
  (0xA543, "282"),
  (0xA544, "266 26A"),
  (0xA54B, "261"),
  (0xA54F, "25C"),
  (0xA567, "264"),
  (0xA641, "19B")
]

/-- Each character that has variants, from the least of them to another one. -/
def casePairs : List (Nat × Nat) :=
  caseTable.flatMap fun (distance, table) =>
    (CharSet.ofTable table).ranges.flatMap fun r =>
      (List.range (r.last + 1 - r.first)).map fun i => (r.first + i, r.first + i + distance)

namespace CharSet

/-- The set with the variants of its characters: the least variant of each is added first, and then
all that belong to those. -/
def withCaseVariants (s : CharSet) : CharSet :=
  let least := casePairs.filterMap fun (l, v) => if s.contains v then some ⟨l, l⟩ else none
  let t := s.union ⟨least⟩
  t.union ⟨casePairs.filterMap fun (l, v) => if t.contains l then some ⟨v, v⟩ else none⟩

/-- The set with the letters of the other case, for the letters of ASCII alone. -/
def withAsciiVariants (s : CharSet) : CharSet :=
  let letters := (List.range 26).flatMap fun i => [(0x41 + i, 0x61 + i), (0x61 + i, 0x41 + i)]
  s.union ⟨letters.filterMap fun (l, v) => if s.contains l then some ⟨v, v⟩ else none⟩

theorem contains_withCaseVariants {s : CharSet} {n : Nat} (h : s.contains n = true) :
    s.withCaseVariants.contains n = true := by
  simp [withCaseVariants, contains_union, h]

end CharSet

end AlbumCatalog
