import Mathlib.Data.List.Infix
import SecureExchange.Proofs.Credential.Holdings

/-!
# Files of blocks and plain text

Text is plain if it consists of whole lines, has no zero in it and cannot start a block. A file in
which all text is plain is read as the blocks that were put in it, one after the other
(`readings_of_plain`), so it holds what they hold.
-/

namespace SecureExchange.Credential

open Text

/-! ### Lines -/

namespace Line

variable {reversed s : Octets} {room : Nat} {l : Line}

theorem cutFrom_append_lineEnd (reversed : Octets) (room : Nat) (s : Octets) (rest : List Item) :
    cutFrom reversed room ((s ++ [lineEnd]).map .octet ++ rest) =
      cutFrom reversed room ((s ++ [lineEnd]).map .octet) ++ cutFrom [] maxLength rest := by
  induction s generalizing reversed room with
  | nil => simp [cutFrom, unfinished]
  | cons b s ih =>
      by_cases hcut : b = lineEnd ∨ room ≤ 1
      · have := ih [] maxLength
        simpa [cutFrom, hcut] using this
      · have := ih (b :: reversed) (room - 1)
        simpa [cutFrom, hcut] using this

theorem exists_of_mem_cutFrom (h : l ∈ cutFrom reversed room (s.map .octet)) :
    ∃ p, l = .octets p ∧ p ≠ [] ∧ p <:+: reversed.reverse ++ s := by
  induction s generalizing reversed room with
  | nil =>
      cases reversed with
      | nil => simp [cutFrom, unfinished] at h
      | cons b reversed =>
          refine ⟨(b :: reversed).reverse, ?_, by simp, by simp⟩
          simpa [cutFrom, unfinished] using h
  | cons b s ih =>
      by_cases hcut : b = lineEnd ∨ room ≤ 1
      · rw [List.map_cons, cutFrom, if_pos hcut, List.mem_cons] at h
        rcases h with rfl | h
        · exact ⟨(b :: reversed).reverse, rfl, by simp, [], s, by simp⟩
        · obtain ⟨p, hl, hp, hwithin⟩ := ih h
          refine ⟨p, hl, hp, hwithin.trans ⟨reversed.reverse ++ [b], [], by simp⟩⟩
      · rw [List.map_cons, cutFrom, if_neg hcut] at h
        obtain ⟨p, hl, hp, hwithin⟩ := ih h
        exact ⟨p, hl, hp, by simpa using hwithin⟩

/-- A line that is not too long is one piece. -/
theorem cutFrom_line (hline : lineEnd ∉ s) (hshort : s.length < room) (rest : List Item) :
    cutFrom reversed room ((s ++ [lineEnd]).map .octet ++ rest) =
      .octets (reversed.reverse ++ s ++ [lineEnd]) :: cutFrom [] maxLength rest := by
  induction s generalizing reversed room with
  | nil => simp [cutFrom]
  | cons b s ih =>
      rw [List.mem_cons, not_or] at hline
      rw [List.length_cons] at hshort
      have hgoes : ¬ (b = lineEnd ∨ room ≤ 1) := by
        rintro (rfl | hroom)
        · exact hline.1 rfl
        · omega
      have := @ih (b :: reversed) (room - 1) hline.2 (by omega)
      simpa [cutFrom, hgoes] using this

end Line

/-! ### Whole blocks -/

/-- What the content of a part is read as. -/
def Content.block (c : Content) : Block := ⟨c.name, [], some c⟩

def startLine (name : Octets) : Octets := startMark ++ name ++ markTail ++ [lineEnd]

def endLine (name : Octets) : Octets := endMark ++ name ++ markTail ++ [lineEnd]

def blockLines (c : Content) : List Line :=
  [.octets (startLine c.name), .content c, .octets (endLine c.name)]

def contentNames : List Octets := [certificateName, keyName, lockedKeyName]

theorem Content.name_mem (c : Content) : c.name ∈ contentNames := by
  cases c <;> simp [Content.name, contentNames, keyName, lockedKeyName]

theorem lineEnd_not_mem_marks : ∀ name ∈ contentNames,
    lineEnd ∉ startMark ++ name ++ markTail ∧ lineEnd ∉ endMark ++ name ++ markTail := by decide

theorem length_marks_lt : ∀ name ∈ contentNames,
    (startMark ++ name ++ markTail).length < Line.maxLength ∧
      (endMark ++ name ++ markTail).length < Line.maxLength := by decide

theorem cutFrom_block (c : Content) (rest : List Item) :
    Line.cutFrom [] Line.maxLength ((Part.block c).items ++ rest) =
      blockLines c ++ Line.cutFrom [] Line.maxLength rest := by
  obtain ⟨hstart, hend⟩ := lineEnd_not_mem_marks c.name c.name_mem
  obtain ⟨hstartLength, hendLength⟩ := length_marks_lt c.name c.name_mem
  rw [Part.items, List.append_assoc, List.cons_append, Line.cutFrom_line hstart hstartLength,
    Line.cutFrom, Line.cutFrom_line hend hendLength]
  rfl

/-- What the first line of a block looks like to a reader, and what the last one does. -/
theorem startedName?_startLine : ∀ name ∈ contentNames,
    Line.seen (startLine name) = startLine name ∧
      Line.dropByteOrderMark (startLine name) = startLine name ∧
      Line.startedName? (Line.clean (startLine name)) = some name := by decide

theorem dropStart?_endLine : ∀ name ∈ contentNames,
    Line.seen (endLine name) = endLine name ∧ (Line.clean (endLine name)).isEmpty = false ∧
      Line.dropStart? endMark (Line.clean (endLine name)) = some (name ++ markTail) := by decide

namespace Block

theorem readNext_blockLines (isFirst : Bool) (c : Content) (rest : List Line) :
    readNext isFirst (blockLines c ++ rest) = (.block c.block, rest) := by
  obtain ⟨hseen, hmark, hname⟩ := startedName?_startLine c.name c.name_mem
  obtain ⟨hseenEnd, hclean, hend⟩ := dropStart?_endLine c.name c.name_mem
  have hstarts : Line.startedName? (Line.clean (if isFirst then
      Line.dropByteOrderMark (startLine c.name) else startLine c.name)) = some c.name := by
    cases isFirst <;> simp [hmark, hname]
  have hnonempty : (startLine c.name).isEmpty = false := by simp [startLine]
  have hnonemptyEnd : (endLine c.name).isEmpty = false := by simp [endLine]
  simp [blockLines, readNext, hseen, hnonempty, hstarts, readRest, Draft.take, Draft.takeContent,
    Draft.empty, Draft.push, hseenEnd, hnonemptyEnd, Draft.takeOctets, hclean, hend,
    Draft.finish, assemble, textOf, Content.block]

end Block

/-! ### Text between blocks -/

/-- Whole lines that have no zero in them and cannot start a block. -/
structure IsPlainText (s : Octets) : Prop where
  noZero : 0 ∉ s
  noStart : ¬ startMark <:+: s
  wholeLines : s = [] ∨ s.getLast? = some lineEnd

instance : DecidablePred IsPlainText := fun s ↦
  decidable_of_iff (0 ∉ s ∧ ¬ startMark <:+: s ∧ (s = [] ∨ s.getLast? = some lineEnd))
    ⟨fun ⟨hzero, hstart, hlines⟩ ↦ ⟨hzero, hstart, hlines⟩,
      fun h ↦ ⟨h.noZero, h.noStart, h.wholeLines⟩⟩

def Part.IsPlain : Part → Prop
  | .block _ => True
  | .text s => IsPlainText (Utf8.encode s)

instance : DecidablePred Part.IsPlain
  | .block _ => inferInstanceAs (Decidable True)
  | .text s => inferInstanceAs (Decidable (IsPlainText (Utf8.encode s)))

/-- A piece of plain text. -/
def Line.IsPlain (l : Line) : Prop :=
  ∃ s, l = .octets s ∧ s ≠ [] ∧ 0 ∉ s ∧ ¬ startMark <:+: s

namespace Line

variable {s : Octets} {l : Line} {lines : List Line}

theorem clean_isPrefix (s : Octets) : clean s <+: s := by
  have hsuffix := List.dropWhile_suffix isPadding (l := s.reverse)
  simpa [clean] using List.reverse_prefix.mpr hsuffix

theorem dropByteOrderMark_suffix (s : Octets) : dropByteOrderMark s <:+ s := by
  unfold dropByteOrderMark
  split
  · exact ⟨[0xEF, 0xBB, 0xBF], rfl⟩
  · exact List.suffix_rfl

theorem startedName?_eq_none (h : ¬ startMark <:+: s) : startedName? (clean s) = none := by
  have hstart : startMark.isPrefixOf (clean s) = false := by
    rw [Bool.eq_false_iff, ne_eq, List.isPrefixOf_iff_prefix]
    exact fun hstarts ↦ h (hstarts.trans (clean_isPrefix s)).isInfix
  simp [startedName?, dropStart?, hstart]

theorem seen_of_not_mem (h : 0 ∉ s) : seen s = s := by
  rw [seen, List.takeWhile_eq_self_iff]
  rintro b hb
  simpa using ne_of_mem_of_not_mem hb h

end Line

namespace Block

variable {l : Line} {lines : List Line}

theorem readNext_of_isPlain (h : l.IsPlain) (isFirst : Bool) (rest : List Line) :
    readNext isFirst (l :: rest) = readNext false rest := by
  obtain ⟨s, rfl, hs, hzero, hstart⟩ := h
  have hmarked : ¬ startMark <:+: Line.dropByteOrderMark s :=
    fun hwithin ↦ hstart (hwithin.trans (Line.dropByteOrderMark_suffix s).isInfix)
  have hname : Line.startedName? (Line.clean (if isFirst then Line.dropByteOrderMark s else s)) =
      none := by
    cases isFirst <;> simp [Line.startedName?_eq_none, hstart, hmarked]
  simp [readNext, Line.seen_of_not_mem hzero, hs, hname]

theorem readNext_plain_append (h : ∀ l ∈ lines, l.IsPlain) (isFirst : Bool) (c : Content)
    (rest : List Line) :
    readNext isFirst (lines ++ (blockLines c ++ rest)) = (.block c.block, rest) := by
  induction lines generalizing isFirst with
  | nil => exact readNext_blockLines isFirst c rest
  | cons l lines ih =>
      rw [List.cons_append, readNext_of_isPlain (h l List.mem_cons_self)]
      exact ih (fun l' hl' ↦ h l' (List.mem_cons_of_mem l hl')) false

theorem readNext_plain (h : ∀ l ∈ lines, l.IsPlain) (isFirst : Bool) :
    readNext isFirst lines = (.nothing, []) := by
  induction lines generalizing isFirst with
  | nil => rfl
  | cons l lines ih =>
      rw [readNext_of_isPlain (h l List.mem_cons_self)]
      exact ih (fun l' hl' ↦ h l' (List.mem_cons_of_mem l hl')) false

theorem readings_plain_append (h : ∀ l ∈ lines, l.IsPlain) (c : Content) (rest : List Line) :
    readings (lines ++ (blockLines c ++ rest)) = .block c.block :: readings rest := by
  have hread := readNext_plain_append h true c rest
  cases hlines : lines ++ (blockLines c ++ rest) with
  | nil => simp [blockLines] at hlines
  | cons l more =>
      rw [hlines] at hread
      rw [readings, hread]

theorem readings_plain (h : ∀ l ∈ lines, l.IsPlain) :
    readings lines = [] ∨ readings lines = [.nothing] := by
  cases lines with
  | nil => exact .inl (by rw [readings])
  | cons l more =>
      right
      rw [readings, readNext_plain h, readings]

end Block

/-! ### What plain files hold -/

def Part.content? : Part → Option Content
  | .block c => some c
  | .text _ => none

def contents (parts : List Part) : List Content := parts.filterMap Part.content?

theorem cutFrom_plain {s : Octets} (h : IsPlainText s) (rest : List Item) :
    ∃ lines : List Line, (∀ l ∈ lines, l.IsPlain) ∧
      Line.cutFrom [] Line.maxLength (s.map .octet ++ rest) =
        lines ++ Line.cutFrom [] Line.maxLength rest := by
  rcases h.wholeLines with rfl | hlast
  · exact ⟨[], by simp, by simp⟩
  · obtain ⟨t, rfl⟩ := List.getLast?_eq_some_iff.mp hlast
    refine ⟨_, fun l hl ↦ ?_, Line.cutFrom_append_lineEnd [] Line.maxLength t rest⟩
    obtain ⟨p, rfl, hp, hwithin⟩ := Line.exists_of_mem_cutFrom hl
    refine ⟨p, rfl, hp, fun hzero ↦ h.noZero (hwithin.subset hzero), fun hstart ↦ ?_⟩
    exact h.noStart (hstart.trans hwithin)

/-- The induction is over the parts, with the plain lines in front of them. -/
theorem readings_of_plain_lines {parts : List Part} (h : ∀ p ∈ parts, p.IsPlain)
    (lines : List Line) (hlines : ∀ l ∈ lines, l.IsPlain) :
    ∃ tail, (tail = [] ∨ tail = [.nothing]) ∧
      Block.readings (lines ++ Line.ofParts parts) =
        (contents parts).map (.block ·.block) ++ tail := by
  induction parts generalizing lines with
  | nil =>
      refine ⟨Block.readings lines, Block.readings_plain hlines, ?_⟩
      simp [Line.ofParts, Line.cutFrom_nil, contents]
  | cons p parts ih =>
      have hrest : ∀ p ∈ parts, p.IsPlain := fun p' hp' ↦ h p' (List.mem_cons_of_mem p hp')
      cases p with
      | block c =>
          obtain ⟨tail, htail, hread⟩ := ih hrest [] (by simp)
          refine ⟨tail, htail, ?_⟩
          rw [Line.ofParts, List.flatMap_cons, cutFrom_block, Block.readings_plain_append hlines]
          exact congrArg (.block c.block :: ·) hread
      | text s =>
          obtain ⟨more, hmore, hcut⟩ := cutFrom_plain (h (.text s) List.mem_cons_self)
            (parts.flatMap Part.items)
          obtain ⟨tail, htail, hread⟩ := ih hrest (lines ++ more) (by
            intro l hl
            rcases List.mem_append.mp hl with hl | hl
            · exact hlines l hl
            · exact hmore l hl)
          refine ⟨tail, htail, ?_⟩
          rw [Line.ofParts, List.flatMap_cons, Part.items, hcut, ← List.append_assoc]
          exact hread

/-- A plain file is read as the blocks that were put in it. -/
theorem readings_of_plain {parts : List Part} (h : ∀ p ∈ parts, p.IsPlain) :
    ∃ tail, (tail = [] ∨ tail = [.nothing]) ∧
      readingsOf parts = (contents parts).map (.block ·.block) ++ tail :=
  readings_of_plain_lines h [] (by simp)

variable {parts : List Part} {c : Content} {pair : Pair}

theorem reached_of_plain (h : ∀ p ∈ parts, p.IsPlain) :
    reached (readingsOf parts) = (contents parts).map (.block ·.block) := by
  obtain ⟨tail, htail, hread⟩ := readings_of_plain h
  have hblocks : ∀ r ∈ (contents parts).map (Reading.block ·.block),
      decide (r ≠ .nothing) = true := by simp
  rw [hread, reached, List.takeWhile_append_of_pos hblocks]
  rcases htail with rfl | rfl <;> simp

theorem blocks_map (cs : List Content) :
    blocks (cs.map (.block ·.block)) = cs.map Content.block := by
  simp [blocks, List.filterMap_map, Function.comp_def, Reading.block?]

theorem blocks_of_plain (h : ∀ p ∈ parts, p.IsPlain) :
    blocks (readingsOf parts) = (contents parts).map Content.block := by
  obtain ⟨tail, htail, hread⟩ := readings_of_plain h
  have hnone : blocks tail = [] := by rcases htail with rfl | rfl <;> rfl
  rw [hread, blocks, List.filterMap_append, ← blocks, ← blocks, hnone, List.append_nil, blocks_map]

theorem malformed_not_mem_of_plain (h : ∀ p ∈ parts, p.IsPlain) :
    .malformed ∉ reached (readingsOf parts) := by
  rw [reached_of_plain h]
  simp

def Content.isCertificate (c : Content) : Bool := c.certificate?.isSome

theorem Content.block_isCertificate_iff : c.block.IsCertificate pair ↔ c = .certificate pair := by
  simp [Block.IsCertificate, block]

theorem Content.name_mem_certificateNames (c : Content) :
    certificateNames.contains c.block.name = c.isCertificate := by
  cases c <;> rfl

theorem Content.eq_certificate_of_isCertificate (h : c.isCertificate = true) :
    ∃ pair, c = .certificate pair := by
  cases c with
  | certificate pair => exact ⟨pair, rfl⟩
  | _ => simp [isCertificate, certificate?] at h

theorem Content.block_endsSearch_iff : c.block.EndsSearch ↔ c.isKey = true := by
  simp [Block.EndsSearch, block, Block.key?, Option.filter]

theorem presents_of_plain_iff (h : ∀ p ∈ parts, p.IsPlain) :
    Presents (readingsOf parts) pair ↔
      (contents parts).find? Content.isCertificate = some (.certificate pair) := by
  have hfind : (blocks (reached (readingsOf parts))).find? (certificateNames.contains ·.name) =
      ((contents parts).find? Content.isCertificate).map Content.block := by
    rw [reached_of_plain h, blocks_map, List.find?_map]
    simp only [Function.comp_def, Content.name_mem_certificateNames]
  constructor
  · intro hpresents
    obtain ⟨b, hfirst, hb⟩ := hpresents.first
    rw [hfind, Option.map_eq_some_iff] at hfirst
    obtain ⟨c, hc, rfl⟩ := hfirst
    rw [hc, Content.block_isCertificate_iff.mp hb]
  · intro hfirst
    refine ⟨malformed_not_mem_of_plain h, ⟨Content.block (.certificate pair), ?_, rfl, rfl⟩, ?_⟩
    · rw [hfind, hfirst]
      rfl
    · rw [reached_of_plain h, blocks_map]
      intro b hb hname
      obtain ⟨c, _, rfl⟩ := List.mem_map.mp hb
      have hc : c.isCertificate = true := by
        rw [← Content.name_mem_certificateNames, List.contains_iff_mem]
        exact mem_certificateNames_of_chainNames hname
      obtain ⟨p, rfl⟩ := Content.eq_certificate_of_isCertificate hc
      exact ⟨p, rfl, rfl⟩

theorem foundBySearch_of_plain_iff (h : ∀ p ∈ parts, p.IsPlain) :
    FoundBySearch (readingsOf parts) c ↔ (contents parts).find? Content.isKey = some c := by
  have hends : (fun c : Content ↦ decide c.block.EndsSearch) = Content.isKey := by
    funext c
    rw [Bool.eq_iff_iff, decide_eq_true_iff, Content.block_endsSearch_iff]
  rw [FoundBySearch, blocks_of_plain h, List.find?_map, Function.comp_def, hends]
  constructor
  · rintro ⟨b, hfind, _, hcontent, _⟩
    obtain ⟨c', hc', rfl⟩ := Option.map_eq_some_iff.mp hfind
    obtain rfl : c' = c := by simpa [Content.block] using hcontent
    exact hc'
  · intro hfind
    exact ⟨c.block, by rw [hfind]; rfl, by simp [Content.block, shortHeader], rfl,
      List.find?_some hfind⟩

theorem holdsKey_of_plain_iff (h : ∀ p ∈ parts, p.IsPlain) :
    HoldsKey (readingsOf parts) c ↔ (contents parts).find? Content.isKey = some c := by
  refine ⟨?_, fun hfind ↦ .search ((foundBySearch_of_plain_iff h).mpr hfind)⟩
  rintro (hsearch | ⟨hnone, b, hfind, _, hcontent, hkey⟩)
  · exact (foundBySearch_of_plain_iff h).mp hsearch
  · -- A key that is found by its name is found by a search as well.
    have hmem : b ∈ blocks (readingsOf parts) :=
      ((List.takeWhile_sublist _).filterMap _).subset (List.mem_of_find?_eq_some hfind)
    rw [blocks_of_plain h] at hmem
    obtain ⟨c', hc', rfl⟩ := List.mem_map.mp hmem
    obtain rfl : c' = c := by simpa [Content.block] using hcontent
    obtain ⟨c'', hfirst⟩ := Option.isSome_iff_exists.mp
      (List.find?_isSome.mpr ⟨c', hc', hkey⟩)
    exact absurd ((foundBySearch_of_plain_iff h).mpr hfirst) (hnone c'')

theorem Content.block_mayStand (c : Content) : c.block.MayStand := by
  cases c with
  | certificate pair =>
      exact .certificate pair (by decide : certificateName ∈ certificateNames) ⟨rfl, rfl⟩
  | key pair =>
      exact .key (by decide : keyName ∉ certificateNames)
        (by decide : occurs keyName keyName = true) (.clear _ rfl rfl rfl)
  | lockedKey pair =>
      exact .key (by decide : lockedKeyName ∉ certificateNames)
        (by decide : occurs keyName lockedKeyName = true) (.clear _ rfl rfl rfl)

theorem namedCertificates_of_plain (h : ∀ p ∈ parts, p.IsPlain) :
    namedCertificates (readingsOf parts) = (contents parts).filterMap Content.certificate? := by
  rw [namedCertificates, reached_of_plain h, blocks_map, List.filterMap_filter, List.filterMap_map]
  congr 1
  funext c
  cases c <;> rfl

theorem trusts_of_plain_iff (h : ∀ p ∈ parts, p.IsPlain) {own : List Pair} :
    Trusts (readingsOf parts) own ↔
      own = ((contents parts).filterMap Content.certificate?).eraseDups ∧ own ≠ [] := by
  rw [← namedCertificates_of_plain h]
  refine ⟨fun htrusts ↦ ⟨htrusts.distinct, htrusts.nonempty⟩, fun ⟨hown, hne⟩ ↦ ?_⟩
  refine ⟨malformed_not_mem_of_plain h, fun b hb ↦ ?_, hown, hne⟩
  rw [reached_of_plain h, blocks_map] at hb
  obtain ⟨c, _, rfl⟩ := List.mem_map.mp hb
  exact c.block_mayStand

end SecureExchange.Credential
