import SecureExchange.Credential.Context
import Mathlib.Data.List.TakeWhile

/-!
# What files of credentials hold

The first certificate of a file counts if the file is well-formed up to the last block (`Presents`).
The first key counts whatever else there is, unless the search for it comes to a long header before
(`HoldsKey`). All certificates count as authorities if everything else may stand beside them
(`Trusts`). A locked key opens with its own password, to which zeros may be added (`Opens`).
-/

namespace SecureExchange.Credential

open Text

variable {b : Block} {r : Reading} {rest readings : List Reading} {pair : Pair} {c : Content}

/-! ### Blocks that are read -/

/-- All that is read from the parts of a file. -/
def readingsOf (parts : List Part) : List Reading := Block.readings (Line.ofParts parts)

/-- The readings in front of the first one that does not find a block any more. -/
def reached (readings : List Reading) : List Reading := readings.takeWhile (· ≠ .nothing)

@[simp] theorem reached_nil : reached [] = [] := rfl

@[simp] theorem reached_nothing : reached (.nothing :: rest) = [] := rfl

@[simp] theorem reached_malformed : reached (.malformed :: rest) = .malformed :: reached rest := rfl

@[simp] theorem reached_block : reached (.block b :: rest) = .block b :: reached rest := rfl

def Reading.block? : Reading → Option Block
  | .block b => some b
  | _ => none

def blocks (readings : List Reading) : List Block := readings.filterMap Reading.block?

@[simp] theorem blocks_nil : blocks [] = [] := rfl

@[simp] theorem blocks_block : blocks (.block b :: rest) = b :: blocks rest := rfl

@[simp] theorem blocks_malformed : blocks (.malformed :: rest) = blocks rest := rfl

@[simp] theorem blocks_nothing : blocks (.nothing :: rest) = blocks rest := rfl

namespace Block

/-- The block is a certificate and nothing else. -/
def IsCertificate (b : Block) (pair : Pair) : Prop :=
  b.header = [] ∧ b.content = some (.certificate pair)

theorem certificate?_eq_some_iff : b.certificate? = some pair ↔ b.IsCertificate pair := by
  rw [certificate?, IsCertificate, Option.ite_none_right_eq_some, List.isEmpty_iff,
    Option.bind_eq_some_iff]
  refine and_congr_right fun _ ↦ ⟨?_, fun h ↦ ⟨_, h, rfl⟩⟩
  rintro ⟨c, hc, hpair⟩
  cases c with
  | certificate p => rw [hc, ← Option.some.inj hpair]
  | _ => simp [Content.certificate?] at hpair

theorem isSome_certificate?_iff : b.certificate?.isSome = true ↔ ∃ pair, b.IsCertificate pair := by
  simp only [Option.isSome_iff_exists, certificate?_eq_some_iff]

theorem key?_eq_some_iff : b.key? = some c ↔ b.content = some c ∧ c.isKey = true := by
  rw [key?, Option.filter_eq_some_iff]

end Block

/-! ### The certificate -/

/-- The first certificate of a file that is well-formed: no block is malformed, and no certificate
of a chain is anything else. -/
structure Presents (readings : List Reading) (pair : Pair) : Prop where
  wellFormed : .malformed ∉ reached readings
  first : ∃ b, (blocks (reached readings)).find? (certificateNames.contains ·.name) = some b ∧
    b.IsCertificate pair
  chain : ∀ b ∈ blocks (reached readings), b.name ∈ chainNames → ∃ p, b.IsCertificate p

theorem isChain_iff : isChain readings = true ↔ .malformed ∉ reached readings ∧
    ∀ b ∈ blocks (reached readings), b.name ∈ chainNames → ∃ p, b.IsCertificate p := by
  induction readings with
  | nil => simp [isChain]
  | cons r rest ih =>
      cases r with
      | nothing => simp [isChain]
      | malformed => simp [isChain]
      | block b =>
          by_cases hname : b.name ∈ chainNames
          · simp [isChain, hname, ih, Block.isSome_certificate?_iff, and_left_comm]
          · simp [isChain, hname, ih]

theorem mem_certificateNames_of_chainNames {name : Octets} (h : name ∈ chainNames) :
    name ∈ certificateNames := List.mem_cons_of_mem _ h

theorem ownCertificate?_eq_some_iff :
    ownCertificate? readings = some pair ↔ Presents readings pair := by
  induction readings with
  | nil => exact ⟨by simp [ownCertificate?], fun h ↦ by simpa using h.first⟩
  | cons r rest ih =>
      cases r with
      | nothing => exact ⟨by simp [ownCertificate?], fun h ↦ by simpa using h.first⟩
      | malformed => exact ⟨by simp [ownCertificate?], fun h ↦ by simpa using h.wellFormed⟩
      | block b =>
          by_cases hname : b.name ∈ certificateNames
          · have hown : ownCertificate? (.block b :: rest) = some pair ↔
                b.IsCertificate pair ∧ isChain rest = true := by
              rw [← Block.certificate?_eq_some_iff]
              cases hb : b.certificate? <;> simp [ownCertificate?, hname, hb, and_comm]
            rw [hown, isChain_iff]
            constructor
            · rintro ⟨hb, hwell, hchain⟩
              refine ⟨by simpa using hwell, ⟨b, by simp [hname], hb⟩, ?_⟩
              simpa using ⟨fun _ ↦ ⟨pair, hb⟩, hchain⟩
            · intro h
              obtain ⟨b', hfirst, hb'⟩ := h.first
              obtain rfl : b = b' := by simpa [hname] using hfirst
              exact ⟨hb', by simpa using h.wellFormed,
                fun b'' hb'' ↦ h.chain b'' (List.mem_cons_of_mem b hb'')⟩
          · have hchain : b.name ∉ chainNames := mt mem_certificateNames_of_chainNames hname
            have hown : ownCertificate? (.block b :: rest) = ownCertificate? rest := by
              simp [ownCertificate?, hname]
            rw [hown, ih]
            refine ⟨fun h ↦ ⟨?_, ?_, ?_⟩, fun h ↦ ⟨?_, ?_, ?_⟩⟩
            · simpa using h.wellFormed
            · simpa [hname] using h.first
            · simpa [hchain] using h.chain
            · simpa using h.wellFormed
            · simpa [hname] using h.first
            · simpa [hchain] using h.chain

/-! ### The key -/

/-- A search for keys ends at this block. -/
def Block.EndsSearch (b : Block) : Prop := shortHeader < b.header.length ∨ b.key?.isSome = true

instance : DecidablePred Block.EndsSearch := fun _ ↦ inferInstanceAs (Decidable (_ ∨ _))

/-- The first key of all blocks, if none before has a long header. -/
def FoundBySearch (readings : List Reading) (c : Content) : Prop :=
  ∃ b, (blocks readings).find? (fun b ↦ decide b.EndsSearch) = some b ∧
    b.header.length ≤ shortHeader ∧ b.content = some c ∧ c.isKey = true

def Reading.isBlock (r : Reading) : Bool := r.block?.isSome

/-- The key of the first block that has the name of one, if no block before is malformed. -/
def FoundByName (readings : List Reading) (c : Content) : Prop :=
  ∃ b, (blocks (readings.takeWhile Reading.isBlock)).find? (keyNames.contains ·.name) = some b ∧
    b.header = [] ∧ b.content = some c ∧ c.isKey = true

/-- The key that counts. A name alone counts only if a search finds nothing. -/
inductive HoldsKey (readings : List Reading) (c : Content) : Prop
  | search (h : FoundBySearch readings c)
  | name (hnone : ∀ c, ¬ FoundBySearch readings c) (h : FoundByName readings c)

theorem searchKey?_eq_some_iff : searchKey? readings = some c ↔ FoundBySearch readings c := by
  induction readings with
  | nil => simp [searchKey?, FoundBySearch]
  | cons r rest ih =>
      cases r with
      | nothing => simpa [searchKey?, FoundBySearch] using ih
      | malformed => simpa [searchKey?, FoundBySearch] using ih
      | block b =>
          by_cases hlong : shortHeader < b.header.length
          · have hends : b.EndsSearch := .inl hlong
            simp only [searchKey?, hlong, FoundBySearch, blocks_block]
            simpa [hends] using fun hshort ↦ absurd hlong (Nat.not_lt.mpr hshort)
          · cases hkey : b.key? with
            | some c' =>
                have hends : b.EndsSearch := .inr (by simp [hkey])
                have hcontent := Block.key?_eq_some_iff.mp hkey
                have hshort := Nat.le_of_not_lt hlong
                simp only [searchKey?, hlong, hkey, FoundBySearch, blocks_block]
                constructor
                · rintro ⟨⟩
                  exact ⟨b, by simp [hends], hshort, hcontent⟩
                · rintro ⟨b', hb', _, hc⟩
                  obtain rfl : b = b' := by simpa [hends] using hb'
                  simpa using hcontent.1.symm.trans hc.1
            | none =>
                have hends : ¬ b.EndsSearch := by simp [Block.EndsSearch, hlong, hkey]
                simpa [searchKey?, FoundBySearch, hlong, hkey, hends] using ih

theorem namedKey?_eq_some_iff : namedKey? readings = some c ↔ FoundByName readings c := by
  induction readings with
  | nil => simp [namedKey?, FoundByName]
  | cons r rest ih =>
      cases r with
      | nothing => simp [namedKey?, FoundByName, Reading.isBlock, Reading.block?]
      | malformed => simp [namedKey?, FoundByName, Reading.isBlock, Reading.block?]
      | block b =>
          have hblock : Reading.isBlock (.block b) = true := rfl
          by_cases hname : b.name ∈ keyNames
          · simp [namedKey?, FoundByName, hblock, hname, Block.key?_eq_some_iff]
          · simpa [namedKey?, FoundByName, hblock, hname] using ih

theorem ownKey?_eq_some_iff : ownKey? readings = some c ↔ HoldsKey readings c := by
  cases hsearch : searchKey? readings with
  | some c' =>
      have hfound := searchKey?_eq_some_iff.mp hsearch
      simp only [ownKey?, hsearch]
      constructor
      · rintro ⟨⟩
        exact .search hfound
      · rintro (h | ⟨hnone, _⟩)
        · rw [← hsearch, searchKey?_eq_some_iff]
          exact h
        · exact absurd hfound (hnone c')
  | none =>
      have hnone : ∀ c, ¬ FoundBySearch readings c := fun c h ↦ by
        simp [searchKey?_eq_some_iff.mpr h] at hsearch
      simp only [ownKey?, hsearch, namedKey?_eq_some_iff]
      constructor
      · exact .name hnone
      · rintro (h | ⟨_, h⟩)
        · exact absurd h (hnone c)
        · exact h

/-! ### Authorities -/

/-- A key among authorities: it is in the clear, or it says that it is encrypted. -/
inductive Block.StandsAsKey (b : Block) : Prop
  | clear (c : Content) (hheader : b.header = []) (hcontent : b.content = some c)
      (hkey : c.isKey = true)
  | locked (hheader : b.header = []) (hname : b.name = lockedKeyName)
  | encrypted (hlong : shortHeader < b.header.length ∨ b.name = lockedKeyName)
      (hheader : Header.isEncryption b.header = true)

/-- What may be in a file of authorities. -/
inductive Block.MayStand (b : Block) : Prop
  | certificate (pair : Pair) (hname : b.name ∈ certificateNames) (h : b.IsCertificate pair)
  | key (hname : b.name ∉ certificateNames) (hoccurs : occurs keyName b.name = true)
      (h : b.StandsAsKey)
  | other (hname : b.name ∉ certificateNames) (hoccurs : occurs keyName b.name = false)
      (hrevocation : b.name ≠ revocationName)

/-- The certificates that are read, one by one. -/
def namedCertificates (readings : List Reading) : List Pair :=
  ((blocks (reached readings)).filter (certificateNames.contains ·.name)).filterMap
    Block.certificate?

/-- The distinct certificates of a file in which nothing else is in the way. -/
structure Trusts (readings : List Reading) (own : List Pair) : Prop where
  wellFormed : .malformed ∉ reached readings
  mayStand : ∀ b ∈ blocks (reached readings), b.MayStand
  distinct : own = (namedCertificates readings).eraseDups
  nonempty : own ≠ []

theorem Block.passesAsKey_iff : passesAsKey b = true ↔ b.StandsAsKey := by
  rw [passesAsKey]
  split
  · next hlong =>
      rw [Bool.or_eq_true, List.isEmpty_iff]
      constructor
      · rintro (hheader | hencrypted)
        · exact .locked hheader (hlong.resolve_left (by simp [hheader]))
        · exact .encrypted hlong hencrypted
      · rintro (⟨_, hheader, _, _⟩ | ⟨hheader, _⟩ | ⟨_, hencrypted⟩)
        · exact .inl hheader
        · exact .inl hheader
        · exact .inr hencrypted
  · next hshort =>
      rw [Bool.and_eq_true, List.isEmpty_iff, Option.isSome_iff_exists]
      simp only [Block.key?_eq_some_iff]
      constructor
      · rintro ⟨hheader, c, hcontent, hkey⟩
        exact .clear c hheader hcontent hkey
      · rintro (⟨c, hheader, hcontent, hkey⟩ | ⟨_, hname⟩ | ⟨hlong, _⟩)
        · exact ⟨hheader, c, hcontent, hkey⟩
        · exact absurd (.inr hname) hshort
        · exact absurd hlong hshort

theorem revocationName_not_key : occurs keyName revocationName = false := by decide

theorem Block.passes_iff : passes b = true ↔
    (if occurs keyName b.name = true then b.StandsAsKey else b.name ≠ revocationName) := by
  rw [passes]
  split
  · next hrevocation => simp [hrevocation, revocationName_not_key]
  · next hrevocation => split <;> simp [passesAsKey_iff, hrevocation]

theorem Block.mayStand_of_not_certificate (hname : b.name ∉ certificateNames) :
    b.MayStand ↔ passes b = true := by
  rw [passes_iff]
  split
  · next hoccurs =>
      refine ⟨?_, .key hname hoccurs⟩
      rintro (⟨_, hcertificate, _⟩ | ⟨_, _, hkey⟩ | ⟨_, hnone, _⟩)
      · exact absurd hcertificate hname
      · exact hkey
      · simp [hnone] at hoccurs
  · next hoccurs =>
      refine ⟨?_, .other hname (Bool.eq_false_iff.mpr hoccurs)⟩
      rintro (⟨_, hcertificate, _⟩ | ⟨_, hyes, _⟩ | ⟨_, _, hrevocation⟩)
      · exact absurd hcertificate hname
      · exact absurd hyes hoccurs
      · exact hrevocation

theorem Block.mayStand_of_certificate (hname : b.name ∈ certificateNames) :
    b.MayStand ↔ ∃ pair, b.IsCertificate pair := by
  refine ⟨?_, fun ⟨pair, h⟩ ↦ .certificate pair hname h⟩
  rintro (⟨pair, _, h⟩ | ⟨hother, _, _⟩ | ⟨hother, _, _⟩)
  · exact ⟨pair, h⟩
  · exact absurd hname hother
  · exact absurd hname hother

theorem certificates?_eq_some_iff {pairs : List Pair} :
    certificates? readings = some pairs ↔ .malformed ∉ reached readings ∧
      (∀ b ∈ blocks (reached readings), b.MayStand) ∧ pairs = namedCertificates readings := by
  induction readings generalizing pairs with
  | nil => simp [certificates?, namedCertificates, eq_comm]
  | cons r rest ih =>
      cases r with
      | nothing => simp [certificates?, namedCertificates, eq_comm]
      | malformed => simp [certificates?]
      | block b =>
          by_cases hname : b.name ∈ certificateNames
          · cases hb : b.certificate? with
            | none =>
                have hnever : ¬ b.MayStand := by
                  rw [Block.mayStand_of_certificate hname, ← Block.isSome_certificate?_iff, hb]
                  simp
                simp [certificates?, hname, hb, hnever]
            | some pair =>
                have hstands : b.MayStand := (Block.mayStand_of_certificate hname).mpr
                  ⟨pair, Block.certificate?_eq_some_iff.mp hb⟩
                have hnamed : namedCertificates (.block b :: rest) =
                    pair :: namedCertificates rest := by simp [namedCertificates, hname, hb]
                have hall : certificates? (.block b :: rest) =
                    (certificates? rest).map (pair :: ·) := by simp [certificates?, hname, hb]
                simp only [hall, hnamed, Option.map_eq_some_iff, ih]
                constructor
                · rintro ⟨_, ⟨hwell, hmay, rfl⟩, rfl⟩
                  exact ⟨by simpa using hwell, by simpa [hstands] using hmay, rfl⟩
                · rintro ⟨hwell, hmay, rfl⟩
                  exact ⟨_, ⟨by simpa using hwell, by simpa [hstands] using hmay, rfl⟩, rfl⟩
          · have hnamed : namedCertificates (.block b :: rest) = namedCertificates rest := by
              simp [namedCertificates, hname]
            by_cases hpasses : passes b = true
            · have hstands := (Block.mayStand_of_not_certificate hname).mpr hpasses
              simp [certificates?, hname, hpasses, ih, hnamed, hstands]
            · have hnever := mt (Block.mayStand_of_not_certificate hname).mp hpasses
              simp [certificates?, hname, hpasses, hnever]

/-! ### The password -/

/-- The password of a pair, perhaps with zeros added up to the length of a block. -/
structure IsPassword (text : String) (pair : Pair) : Prop where
  zeros : ∃ n, ascii text = passwordOf pair ++ List.replicate n 0 ∧
    (n = 0 ∨ (ascii text).length ≤ passwordBlock)
  length : (ascii text).length ≤ maxPassword

/-- The pair that a key is of, if it can be opened. -/
inductive Opens (password : Option String) : Content → Pair → Prop
  | clear (pair : Pair) : Opens password (.key pair) pair
  | locked (pair : Pair) (text : String) (hgiven : password = some text)
      (h : IsPassword text pair) : Opens password (.lockedKey pair) pair

theorem zero_not_mem_passwordOf (pair : Pair) : 0 ∉ passwordOf pair := by
  have hdigits : ∀ c ∈ Nat.toDigits 10 pair, c.isDigit = true :=
    fun c hc ↦ Nat.isDigit_of_mem_toDigits (by decide) (by decide) hc
  rw [passwordOf, List.mem_append, not_or]
  refine ⟨by decide, ?_⟩
  rw [ascii, Nat.toString_eq_ofList_toDigits, String.toList_ofList, Utf8.encode, List.mem_flatMap]
  rintro ⟨c, hc, hzero⟩
  have hrange : 48 ≤ c.toNat ∧ c.toNat ≤ 57 := by
    simpa [Char.isDigit, UInt32.le_iff_toNat_le] using hdigits c hc
  have hone : c.toNat < 0x80 := by omega
  rw [Utf8.encodeChar, if_pos hone, List.mem_singleton, ← UInt8.toNat_inj,
    UInt8.toNat_ofNat'] at hzero
  simp at hzero
  omega

theorem effective_eq_iff {s p : Octets} (hp : 0 ∉ p) : effective s = p ↔
    ∃ n, s = p ++ List.replicate n 0 ∧ (n = 0 ∨ s.length ≤ passwordBlock) := by
  rw [effective]
  split
  · next hshort =>
      constructor
      · intro h
        have hzeros : s.reverse.takeWhile (· == 0) =
            List.replicate (s.reverse.takeWhile (· == 0)).length 0 :=
          List.eq_replicate_of_mem fun b hb ↦ by simpa using List.mem_takeWhile_imp hb
        refine ⟨(s.reverse.takeWhile (· == 0)).length, ?_, .inr hshort⟩
        rw [← h, ← List.reverse_replicate, ← hzeros, ← List.reverse_append,
          List.takeWhile_append_dropWhile, List.reverse_reverse]
      · rintro ⟨n, rfl, _⟩
        have hkept : p.reverse.dropWhile (· == 0) = p.reverse := by
          rw [List.dropWhile_eq_self_iff]
          intro hlength hfirst
          have hmem := List.mem_reverse.mp (List.getElem_mem hlength)
          rw [eq_of_beq hfirst] at hmem
          exact hp hmem
        rw [List.reverse_append, List.reverse_replicate, List.dropWhile_append_of_pos (by simp),
          hkept, List.reverse_reverse]
  · next hlong =>
      constructor
      · rintro rfl
        exact ⟨0, by simp, .inl rfl⟩
      · rintro ⟨n, hs, rfl | hshort⟩
        · simpa using hs
        · exact absurd hshort hlong

theorem unlock_eq_ok_iff {password : Option String} :
    unlock password c = .ok pair ↔ Opens password c pair := by
  cases c with
  | certificate p => exact ⟨by simp [unlock], by rintro ⟨⟩⟩
  | key p =>
      simp only [unlock, Except.ok.injEq]
      constructor
      · rintro rfl
        exact .clear p
      · rintro ⟨⟩
        rfl
  | lockedKey p =>
      cases password with
      | none =>
          refine ⟨by simp [unlock], ?_⟩
          rintro (_ | ⟨_, _, hgiven, _⟩)
          simp at hgiven
      | some text =>
          have heffective := effective_eq_iff (s := ascii text) (zero_not_mem_passwordOf p)
          constructor
          · intro h
            simp only [unlock] at h
            split at h
            · simp at h
            · next hlength =>
                split at h
                · next hsame =>
                    obtain rfl := Except.ok.inj h
                    exact .locked p text rfl ⟨heffective.mp hsame, Nat.le_of_not_lt hlength⟩
                · simp at h
          · rintro (_ | ⟨_, _, hgiven, h⟩)
            obtain rfl := Option.some.inj hgiven
            simp [unlock, Nat.not_lt.mpr h.length, heffective.mpr h.zeros]

end SecureExchange.Credential
