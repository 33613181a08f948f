import StringsAudit.Proofs.Comment.Stripping
import StringsAudit.Proofs.Line.Number
import StringsAudit.Proofs.UsagePattern.LeftmostSearch
import StringsAudit.Proofs.UsedKeys
import StringsAudit.SourceFile

/-!
# Where the keys of a source file stand

A site holds a line of the file as it is read before comments are removed, so it can be looked up
there, and at its column the key begins. Where the matches of a line come one after the other, the
sites of a key come in order and a key ends before it is found again, since the lines that are left
of a file keep their order. What finds the matches is arbitrary; with the standard pattern, a search
from left to right finds every key in quotes with `.localized` behind it.

## Main definitions

* `Site.Precedes` : a key ends at one site before it stands at another.
* `UsagePattern.IsReference` : a key stands in a text as the standard pattern wants it.

## Main results

* `UsagePattern.mem_usesOn_iff` : the references on a line are its matches with a first group.
* `mem_usages_parse_iff` : the sites of a key are its references on the lines that are left.
* `eq_of_location_eq` : a key has one site at each place of a file.
* `pairwise_usages_parse` : the sites of a key come in order.
* `sites_parse` : every site points at its key, and every match has a site.
* `sites_parse_standard` : with the standard pattern, the sites are where `"key".localized` stands.
-/

namespace StringsAudit

/-- A key ends at one site before it stands at another. -/
def Site.Precedes (key : String) (first second : Site) : Prop :=
  first.location.line < second.location.line ∨
    first.location.line = second.location.line ∧
      first.location.col + key.length ≤ second.location.col

namespace UsagePattern

open Pattern Text

variable {pattern : UsagePattern} {file key : String} {line : Line} {site : Site}

/-- The references on a line are its matches with a first group. -/
theorem mem_usesOn_iff :
    (key, site) ∈ pattern.usesOn file line ↔
      ∃ found ∈ pattern.captures line.text, ∃ group, found.first? = some group ∧
        key = String.Pos.Raw.extract line.text group.start group.stop ∧
        site = ⟨⟨file, line.number, column line.text group.start⟩, line.text⟩ := by
  simp only [usesOn, List.mem_filterMap, Option.map_eq_some_iff, Prod.mk.injEq,
    eq_comm (a := key), eq_comm (a := site)]

/-- A reference stands on its line, and its key at its column. -/
theorem stands_of_mem_usesOn
    (hmatches : AreSuccessiveIn line.text (pattern.captures line.text))
    (h : (key, site) ∈ pattern.usesOn file line) :
    1 ≤ site.location.col ∧ site.location.col ≤ line.text.length + 1 ∧
      key.toList <+: line.text.toList.drop (site.location.col - 1) := by
  obtain ⟨found, hfound, group, hgroup, rfl, rfl⟩ := mem_usesOn_iff.mp h
  have hboundaries := (hmatches.isIn found hfound).2 group hgroup
  obtain ⟨hfirst, hlast⟩ := column_le_length hboundaries.start
  exact ⟨hfirst, hlast, extract_prefix_drop_column hboundaries.start hboundaries.stop⟩

/-- The references on a line do not overlap, since its matches do not. -/
theorem pairwise_usesOn
    (file : String)
    (hmatches : AreSuccessiveIn line.text (pattern.captures line.text)) :
    (pattern.usesOn file line).Pairwise fun first second => first.2.Precedes first.1 second.2 := by
  rw [usesOn, List.pairwise_filterMap]
  refine hmatches.ordered.imp_of_mem fun {first second} hfirst hsecond hbehind => ?_
  intro use huse other hother
  obtain ⟨group, hgroup, rfl⟩ := Option.map_eq_some_iff.mp huse
  obtain ⟨group', hgroup', rfl⟩ := Option.map_eq_some_iff.mp hother
  have hin := (hmatches.isIn first hfirst).2 group hgroup
  have hin' := (hmatches.isIn second hsecond).2 group' hgroup'
  have hinside := hmatches.isInside first hfirst group hgroup
  -- the second group starts behind both ends of the first
  have hlater : first.whole.stop ≤ group'.start :=
    Nat.le_trans hbehind (hmatches.isInside second hsecond group' hgroup').le_start
  exact .inr ⟨rfl, column_add_length_le hin.start hin.stop hin'.start
    (Nat.le_trans hinside.start_le hlater) (Nat.le_trans hinside.stop_le hlater)⟩

/-- The references on a line are as many as its matches with a first group. -/
theorem length_usesOn
    (pattern : UsagePattern)
    (file : String)
    (line : Line) :
    (pattern.usesOn file line).length =
      (pattern.captures line.text).countP fun found => found.first?.isSome := by
  rw [usesOn, List.length_filterMap_eq_countP]
  refine List.countP_congr fun found _ => ?_
  rw [Option.isSome_map]

/-! ### The standard pattern -/

/-- A key of word characters stands at a column, in quotes and with `.localized` behind it. -/
structure IsReference (key text : String) (col : Nat) : Prop where
  ne_empty : key ≠ ""
  word : ∀ c ∈ key.toList, isWord c = true
  two_le : 2 ≤ col
  stands : ("\"" ++ key ++ "\".localized").toList <+: text.toList.drop (col - 2)

/-- The references that are listed for a text are all that stand in it. -/
theorem mem_references_iff_isReference
    {text : String}
    {start : Nat} :
    (start, key.toList) ∈ references 0 text.toList ↔ IsReference key text (start + 1) := by
  have hquoted : ("\"" ++ key ++ "\".localized").toList = '"' :: (key.toList ++ closing) := by
    rw [String.toList_append, String.toList_append, List.append_assoc]
    rfl
  have hempty : key.toList ≠ [] ↔ key ≠ "" := not_congr String.toList_eq_nil_iff
  rw [mem_references_iff]
  constructor
  · rintro ⟨i, rfl, hkey⟩
    obtain ⟨hne, hword, hstands⟩ := keyAt?_eq_some_iff.mp hkey
    refine ⟨hempty.mp hne, hword, Nat.le_add_left 2 (0 + i), ?_⟩
    rw [Nat.zero_add, hquoted]
    exact hstands
  · rintro ⟨hne, hword, htwo, hstands⟩
    rw [hquoted] at hstands
    refine ⟨start - 1, by omega, keyAt?_eq_some_iff.mpr ⟨hempty.mpr hne, hword, ?_⟩⟩
    exact hstands

/-- With any leftmost search, the references on a line are those that stand in its text. -/
theorem mem_usesOn_iff_isReference
    (hsearch : IsLeftmostSearch (IsStandardMatch line.text) (pattern.captures line.text)) :
    (key, site) ∈ pattern.usesOn file line ↔
      site.location.file = file ∧ line = ⟨site.location.line, site.sourceLine⟩ ∧
        IsReference key site.sourceLine site.location.col := by
  rw [mem_usesOn_iff_mem_references hsearch, List.mem_map]
  constructor
  · rintro ⟨⟨start, word⟩, hmem, heq⟩
    obtain ⟨rfl, rfl⟩ := Prod.mk.inj heq
    refine ⟨rfl, rfl, mem_references_iff_isReference.mp ?_⟩
    rwa [String.toList_ofList]
  · rintro ⟨rfl, rfl, hreference⟩
    have hcol : site.location.col - 1 + 1 = site.location.col := by
      have htwo := hreference.two_le
      omega
    refine ⟨(site.location.col - 1, key.toList), ?_, ?_⟩
    · rwa [mem_references_iff_isReference, hcol]
    · simp only [siteOf, hcol, String.ofList_toList]

end UsagePattern

namespace SourceFile

open Comment Pattern UsagePattern

variable {limit : Depth} {content file key : String} {pattern : UsagePattern} {site : Site}

/-! ### Every pattern -/

/-- The sites of a key are its references on the lines that are left. -/
theorem mem_usages_parse_iff :
    site ∈ (parse content file pattern limit).usedKeys.usages key ↔
      ∃ line ∈ (stripContent limit content).lines, (key, site) ∈ pattern.usesOn file line := by
  rw [parse, UsedKeys.usages_ofList, Dict.valuesOf, uses]
  simp

/-- A site shows the line of the file that it is on. -/
theorem exists_line_of_mem_usages
    (h : site ∈ (parse content file pattern limit).usedKeys.usages key) :
    site.location.file = file ∧
      ∃ line ∈ (stripContent limit content).lines,
        site.location.line = line.number ∧ site.sourceLine = line.text := by
  obtain ⟨line, hline, huse⟩ := mem_usages_parse_iff.mp h
  obtain ⟨-, -, -, -, -, rfl⟩ := mem_usesOn_iff.mp huse
  exact ⟨rfl, line, hline, rfl, rfl⟩

/-- A key has one site at each place of a file. -/
theorem eq_of_location_eq
    {first second : Site}
    (hfirst : first ∈ (parse content file pattern limit).usedKeys.usages key)
    (hsecond : second ∈ (parse content file pattern limit).usedKeys.usages key)
    (heq : first.location = second.location) :
    first = second := by
  obtain ⟨-, line, hline, hnumber, htext⟩ := exists_line_of_mem_usages hfirst
  obtain ⟨-, other, hother, hnumber', htext'⟩ := exists_line_of_mem_usages hsecond
  have hsame : line = other := by
    refine Line.eq_of_number_eq (lines_stripFrom_sublist limit 0 _) hline hother ?_
    rw [← hnumber, ← hnumber', heq]
  have htexts : first.sourceLine = second.sourceLine := by rw [htext, htext', hsame]
  cases first
  cases second
  exact Site.mk.injEq .. ▸ ⟨heq, htexts⟩

/-- References on lines with increasing numbers come in order and do not overlap. -/
theorem pairwise_uses
    (file : String)
    {lines : List Line}
    (hmatches : ∀ text, AreSuccessiveIn text (pattern.captures text))
    (hnumbers : lines.Pairwise fun line other => line.number < other.number) :
    (uses pattern file lines).Pairwise fun first second => first.2.Precedes first.1 second.2 := by
  rw [uses, List.pairwise_flatMap]
  refine ⟨fun line _ => pairwise_usesOn file (hmatches line.text),
    hnumbers.imp fun {line other} hlt => ?_⟩
  rintro ⟨key, site⟩ hsite ⟨key', site'⟩ hsite'
  obtain ⟨-, -, -, -, -, rfl⟩ := mem_usesOn_iff.mp hsite
  obtain ⟨-, -, -, -, -, rfl⟩ := mem_usesOn_iff.mp hsite'
  exact .inl hlt

/-- The sites of a key come in order, and the key ends at one before it stands at the next. -/
theorem pairwise_usages_parse
    (content file : String)
    (limit : Depth)
    (key : String)
    (hmatches : ∀ text, AreSuccessiveIn text (pattern.captures text)) :
    ((parse content file pattern limit).usedKeys.usages key).Pairwise (Site.Precedes key) := by
  have hnumbers := (Line.pairwise_number_ofContent content).sublist
    (lines_stripFrom_sublist limit 0 (Line.ofContent content))
  have huses := pairwise_uses file hmatches hnumbers
  rw [parse, UsedKeys.usages_ofList, Dict.valuesOf, List.pairwise_map]
  refine (huses.filter _).imp_of_mem fun {first second} hfirst _ hprecedes => ?_
  rwa [← beq_iff_eq.mp (List.mem_filter.mp hfirst).2]

/-- The references on lines are as many as the matches with a first group on them. -/
theorem length_uses
    (pattern : UsagePattern)
    (file : String)
    (lines : List Line) :
    (uses pattern file lines).length =
      (lines.map fun line =>
        (pattern.captures line.text).countP fun found => found.first?.isSome).sum := by
  simp only [uses, List.length_flatMap, length_usesOn]

/--
For any pattern whose matches on a line come one after the other without overlap, on boundaries
between characters and with the first group inside: every site of a key holds a line of the source
that is left, with its number, and at its column the key begins; the sites of a key come in order
without overlap, and there are as many sites as there are matches with a first group on the lines
that are left.
-/
theorem sites_parse
    (content file : String)
    (pattern : UsagePattern)
    (limit : Depth)
    (hmatches : ∀ text, AreSuccessiveIn text (pattern.captures text)) :
    let kept := (stripContent limit content).lines
    let used := (parse content file pattern limit).usedKeys
    (∀ key, ∀ site ∈ used.usages key,
      site.location.file = file ∧ 1 ≤ site.location.line ∧
      (Line.ofContent content)[site.location.line - 1]? =
        some ⟨site.location.line, site.sourceLine⟩ ∧
      ⟨site.location.line, site.sourceLine⟩ ∈ kept ∧
      1 ≤ site.location.col ∧ site.location.col ≤ site.sourceLine.length + 1 ∧
      key.toList <+: site.sourceLine.toList.drop (site.location.col - 1)) ∧
    (∀ key, (used.usages key).Pairwise fun first second =>
      first.location.line < second.location.line ∨
        first.location.line = second.location.line ∧
          first.location.col + key.length ≤ second.location.col) ∧
    (used.keys.map fun key => (used.usages key).length).sum =
      (kept.map fun line =>
        (pattern.captures line.text).countP fun found => found.first?.isSome).sum := by
  refine ⟨fun key site hsite => ?_,
    fun key => pairwise_usages_parse content file limit key hmatches, ?_⟩
  · obtain ⟨line, hline, huse⟩ := mem_usages_parse_iff.mp hsite
    obtain ⟨hfirst, hlast, hstands⟩ := stands_of_mem_usesOn (hmatches line.text) huse
    obtain ⟨_, _, _, _, _, rfl⟩ := mem_usesOn_iff.mp huse
    have hsource := (lines_stripFrom_sublist limit 0 (Line.ofContent content)).subset hline
    obtain ⟨hnumber, hindex⟩ := Line.getElem?_of_mem_ofContent hsource
    exact ⟨rfl, hnumber, hindex, hline, hfirst, hlast, hstands⟩
  · exact (UsedKeys.sum_length_usages_ofList _).trans (length_uses pattern file _)

/-- Two keys behind characters of several bytes, in a file that starts with a byte order mark. -/
theorem sites_behind_accents :
    let content := "\uFEFFé = [\"clé\".localized, \"clé\".localized]\n"
    let text := "é = [\"clé\".localized, \"clé\".localized]"
    let used := (parse content "A.swift" standardPattern .unlimited).usedKeys
    (∀ text, AreSuccessiveIn text (standardPattern.captures text)) ∧
    used.usages "clé" = [⟨⟨"A.swift", 1, 7⟩, text⟩, ⟨⟨"A.swift", 1, 24⟩, text⟩] ∧
    (∀ site ∈ used.usages "clé",
      "clé".toList <+: site.sourceLine.toList.drop (site.location.col - 1)) ∧
    (used.keys.map fun key => (used.usages key).length).sum =
      ((stripContent .unlimited content).lines.map fun line =>
        (standardPattern.captures line.text).countP fun found => found.first?.isSome).sum := by
  intro content text used
  have hmatches (text : String) : AreSuccessiveIn text (standardPattern.captures text) :=
    Regex.areSuccessiveIn_captures _ text
  obtain ⟨hsites, -, hcount⟩ :=
    sites_parse content "A.swift" standardPattern .unlimited hmatches
  refine ⟨hmatches, ?_, fun site hsite => ?_, hcount⟩
  · decide +kernel
  · exact (hsites "clé" site hsite).2.2.2.2.2.2

/-! ### The standard pattern -/

/--
A pattern whose matches on a line are those of a leftmost search for the standard pattern, as those
of the project's own search are, has the sites of a key at the places on the lines that are left
where the key stands in quotes with `.localized` behind it, each of them once.
-/
theorem sites_parse_standard :
    (∃ pattern, UsagePattern.compile standard = .ok pattern ∧
      ∀ text, IsLeftmostSearch (IsStandardMatch text) (pattern.captures text)) ∧
    ∀ pattern : UsagePattern,
      (∀ text, IsLeftmostSearch (IsStandardMatch text) (pattern.captures text)) →
      ∀ content file limit key,
        let kept := (stripContent limit content).lines
        let sites := (parse content file pattern limit).usedKeys.usages key
        (∀ site, site ∈ sites ↔
          site.location.file = file ∧ 1 ≤ site.location.line ∧
          (Line.ofContent content)[site.location.line - 1]? =
            some ⟨site.location.line, site.sourceLine⟩ ∧
          ⟨site.location.line, site.sourceLine⟩ ∈ kept ∧
          IsReference key site.sourceLine site.location.col) ∧
        (sites.map (·.location)).Nodup := by
  refine ⟨⟨standardPattern, compile_standard, isLeftmostSearch_standardPattern⟩, ?_⟩
  intro pattern hsearch content file limit key
  dsimp only
  have hmem (site : Site) :
      site ∈ (parse content file pattern limit).usedKeys.usages key ↔
        site.location.file = file ∧
          ⟨site.location.line, site.sourceLine⟩ ∈ (stripContent limit content).lines ∧
          IsReference key site.sourceLine site.location.col := by
    simp only [mem_usages_parse_iff, mem_usesOn_iff_isReference (hsearch _)]
    constructor
    · rintro ⟨line, hline, hfile, rfl, hreference⟩
      exact ⟨hfile, hline, hreference⟩
    · rintro ⟨hfile, hline, hreference⟩
      exact ⟨_, hline, hfile, rfl, hreference⟩
  constructor
  · intro site
    rw [hmem]
    constructor
    · rintro ⟨hfile, hline, hreference⟩
      have hsource := (lines_stripFrom_sublist limit 0 (Line.ofContent content)).subset hline
      obtain ⟨hfirst, hindex⟩ := Line.getElem?_of_mem_ofContent hsource
      exact ⟨hfile, hfirst, hindex, hline, hreference⟩
    · rintro ⟨hfile, -, -, hline, hreference⟩
      exact ⟨hfile, hline, hreference⟩
  · have hsites := pairwise_usages_parse content file limit key fun text =>
      (hsearch text).areSuccessiveIn
    rw [List.Nodup, List.pairwise_map]
    refine hsites.imp_of_mem ?_
    intro first second hfirst _ hprecedes heq
    have hlength : 0 < key.length := by
      have hne := ((hmem first).mp hfirst).2.2.ne_empty
      exact Nat.pos_of_ne_zero fun hzero => hne (String.length_eq_zero_iff.mp hzero)
    rw [Site.Precedes, heq] at hprecedes
    omega

/-- A reference directly behind another, and the same one inside a comment. -/
theorem sites_of_adjacent_references :
    let content := "/* \"a\".localized */\n\"b\".localized\"a\".localized\n"
    let text := "\"b\".localized\"a\".localized"
    let sites := (parse content "A.swift" standardPattern .unlimited).usedKeys.usages "a"
    (∀ text, IsLeftmostSearch (IsStandardMatch text) (standardPattern.captures text)) ∧
    sites = [⟨⟨"A.swift", 2, 15⟩, text⟩] ∧
    (∀ site ∈ sites, IsReference "a" site.sourceLine site.location.col) ∧
    (sites.map (·.location)).Nodup := by
  intro content text sites
  obtain ⟨hsites, hnodup⟩ := sites_parse_standard.2 standardPattern
    isLeftmostSearch_standardPattern content "A.swift" .unlimited "a"
  refine ⟨isLeftmostSearch_standardPattern, ?_, fun site hsite => ?_, hnodup⟩
  · decide +kernel
  · exact ((hsites site).mp hsite).2.2.2.2

end SourceFile
end StringsAudit
