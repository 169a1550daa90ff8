import SecureExchange.Proofs.Credential.Loading
import SecureExchange.Proofs.Credential.NormalPaths
import SecureExchange.Proofs.Credential.PlainFiles

/-!
# What decides on a context

A context is made exactly if five checks hold: certificate and key exist and load as a pair, own
authorities exist if a path is given for them, and load. The first check that fails decides the
error (`create_of_failsFirst`).
-/

namespace SecureExchange.Credential

open Failure

variable {config : Config} {files : Files} {pair : Pair}

/-! ### Checks in order -/

/-- What is given for a role exists. -/
def Provided (config : Config) (files : Files) (role : Role) : Prop :=
  ∀ path, config.path? role = some path → ∃ n, files.lookup (.ofText path) = .node n

inductive Check
  | certificateExists
  | keyExists
  | pairLoads
  | authoritiesExist
  | authoritiesLoad
  deriving DecidableEq, Repr

namespace Check

/-- The place of a check in the order in which they are made. -/
def rank : Check → Nat
  | certificateExists => 0
  | keyExists => 1
  | pairLoads => 2
  | authoritiesExist => 3
  | authoritiesLoad => 4

/-- Whose existence is checked. -/
def role? : Check → Option Role
  | certificateExists => some .certificate
  | keyExists => some .key
  | authoritiesExist => some .authorities
  | _ => none

def Holds (config : Config) (files : Files) (check : Check) : Prop :=
  match check with
  | pairLoads => ∃ pair, LoadsPair config files pair
  | authoritiesLoad => ∃ own, LoadsAuthorities config files own
  | certificateExists => Provided config files .certificate
  | keyExists => Provided config files .key
  | authoritiesExist => Provided config files .authorities

/-- The check fails, and all checks before it hold. -/
structure FailsFirst (config : Config) (files : Files) (check : Check) : Prop where
  fails : ¬ check.Holds config files
  earlier : ∀ other : Check, other.rank < check.rank → other.Holds config files

end Check

/-- An error for a missing file names its path in normal form. Nothing is said here of a path that
is too long to be followed, and refusals to load are no such errors. -/
structure Refusal.Reports (e : Refusal) (config : Config) (files : Files) (check : Check) :
    Prop where
  missing : ∀ role path, check.role? = some role → config.path? role = some path →
    files.lookup (.ofText path) = .nothing →
    ∃ error shown, e.error? = some error ∧ error.cls = .invalidArgument ∧
      error.message = role.label ++ " file not found: " ++ String.ofList shown ∧
      error.details = [("path", .text (String.ofList shown))] ∧
      shown = (Path.ofText path).toText ∧ Path.ofText shown = Path.ofText path
  loading : check.role? = none → e.error? = none

/-! ### Refusals -/

namespace Refusal

variable {e : Refusal} {role : Role} {path : List Char} {check : Check}

theorem reports_of_existing (h : existing role path files = .error e)
    (hrole : check.role? = some role) (hpath : config.path? role = some path) :
    e.Reports config files check where
  missing role' path' hrole' hpath' hnothing := by
    obtain rfl := Option.some.inj (hrole.symm.trans hrole')
    obtain rfl := Option.some.inj (hpath.symm.trans hpath')
    obtain rfl : .missing role (.ofText path) = e := by simpa [existing, hnothing] using h
    exact ⟨_, _, rfl, rfl, rfl, rfl, rfl, Path.ofText_toText (Path.ofText_isNormal path)⟩
  loading hnone := by simp [hrole] at hnone

theorem reports_of_loading (he : e.error? = none) (hrole : check.role? = none) :
    e.Reports config files check where
  missing role path hrole' := by simp [hrole] at hrole'
  loading _ := he

theorem error?_of_readings {n : Node} (h : n.readings = .error e) : e.error? = none := by
  cases n with
  | directory => exact Except.error.inj h ▸ rfl
  | file parts => simp [Node.readings_file] at h

theorem error?_of_unlock {password : Option String} {c : Content}
    (h : unlock password c = .error e) : e.error? = none := by
  unfold unlock at h
  split at h
  · simp at h
  · split at h
    · exact Except.error.inj h ▸ rfl
    · dsimp only at h
      split at h
      · exact Except.error.inj h ▸ rfl
      · split at h
        · simp at h
        · exact Except.error.inj h ▸ rfl
  · exact Except.error.inj h ▸ rfl

theorem error?_of_loadPair {certificate key : Node} {password : Option String}
    (h : loadPair certificate key password = .error e) : e.error? = none := by
  unfold loadPair at h
  split at h
  · next hread => exact error?_of_readings (Except.error.inj h ▸ hread)
  · split at h
    · exact Except.error.inj h ▸ rfl
    · split at h
      · next hread => exact error?_of_readings (Except.error.inj h ▸ hread)
      · split at h
        · exact Except.error.inj h ▸ rfl
        · split at h
          · next hunlock => exact error?_of_unlock (Except.error.inj h ▸ hunlock)
          · split at h
            · simp at h
            · exact Except.error.inj h ▸ rfl

theorem error?_of_loadAuthorities {n : Node} (h : loadAuthorities n = .error e) :
    e.error? = none := by
  unfold loadAuthorities at h
  split at h
  · next hread => exact error?_of_readings (Except.error.inj h ▸ hread)
  · split at h
    · exact Except.error.inj h ▸ rfl
    · exact Except.error.inj h ▸ rfl
    · simp at h

end Refusal

theorem existing_of_provided {role : Role} {path : List Char} (h : Provided config files role)
    (hpath : config.path? role = some path) : ∃ n, existing role path files = .ok n := by
  obtain ⟨n, hn⟩ := h path hpath
  exact ⟨n, (existing_eq_ok_iff role).mpr hn⟩

theorem existing_of_not_provided {role : Role} (h : ¬ Provided config files role) :
    ∃ path e, config.path? role = some path ∧ existing role path files = .error e := by
  unfold Provided at h
  push Not at h
  obtain ⟨path, hpath, hmissing⟩ := h
  cases hexisting : existing role path files with
  | error e => exact ⟨path, e, hpath, hexisting⟩
  | ok n => exact absurd ((existing_eq_ok_iff role).mp hexisting) (hmissing n)

/-- The first check that fails decides what making a context is refused with. -/
theorem create_of_failsFirst {check : Check} (h : check.FailsFirst config files) :
    ∃ e, Context.create config files = .error e ∧ e.Reports config files check := by
  cases check with
  | certificateExists =>
      obtain ⟨_, e, hpath, he⟩ := existing_of_not_provided h.fails
      obtain rfl := Option.some.inj hpath
      exact ⟨e, by simp only [Context.create, he], Refusal.reports_of_existing he rfl hpath⟩
  | keyExists =>
      obtain ⟨certificate, hcertificate⟩ :=
        existing_of_provided (h.earlier .certificateExists (by decide)) rfl
      obtain ⟨_, e, hpath, he⟩ := existing_of_not_provided h.fails
      obtain rfl := Option.some.inj hpath
      exact ⟨e, by simp only [Context.create, hcertificate, he],
        Refusal.reports_of_existing he rfl hpath⟩
  | pairLoads =>
      obtain ⟨certificate, hcertificate⟩ :=
        existing_of_provided (h.earlier .certificateExists (by decide)) rfl
      obtain ⟨key, hkey⟩ := existing_of_provided (h.earlier .keyExists (by decide)) rfl
      cases hpair : loadPair certificate key config.password with
      | ok pair => exact absurd ⟨pair, loadsPair_iff.mpr ⟨_, _, hcertificate, hkey, hpair⟩⟩ h.fails
      | error e =>
          exact ⟨e, by simp only [Context.create, hcertificate, hkey, hpair],
            Refusal.reports_of_loading (Refusal.error?_of_loadPair hpair) rfl⟩
  | authoritiesExist =>
      obtain ⟨pair, hpair⟩ := h.earlier .pairLoads (by decide)
      obtain ⟨path, e, hpath, he⟩ := existing_of_not_provided h.fails
      refine ⟨e, ?_, Refusal.reports_of_existing he rfl hpath⟩
      simp only [create_of_loadsPair hpair, authoritiesOf_eq, hpath, he]
      rfl
  | authoritiesLoad =>
      obtain ⟨pair, hpair⟩ := h.earlier .pairLoads (by decide)
      cases hown : authoritiesOf config.authorities files with
      | ok own => exact absurd ⟨own, authoritiesOf_eq_ok_iff.mp hown⟩ h.fails
      | error e =>
          refine ⟨e, by rw [create_of_loadsPair hpair, hown]; rfl, ?_⟩
          refine Refusal.reports_of_loading ?_ rfl
          rw [authoritiesOf_eq] at hown
          split at hown
          · simp at hown
          · next path hpath =>
              obtain ⟨n, hn⟩ := existing_of_provided (h.earlier .authoritiesExist (by decide)) hpath
              rw [hn] at hown
              cases hload : loadAuthorities n with
              | ok pairs => simp [hload, Except.map] at hown
              | error e' =>
                  obtain rfl : e' = e := by simpa [hload, Except.map] using hown
                  exact Refusal.error?_of_loadAuthorities hload

theorem LoadsPair.provided (h : LoadsPair config files pair) :
    Provided config files .certificate ∧ Provided config files .key := by
  obtain ⟨certificate, key, hcertificate, hkey, _⟩ := h
  constructor
  · rintro _ ⟨⟩
    exact ⟨_, hcertificate⟩
  · rintro _ ⟨⟩
    exact ⟨_, hkey⟩

theorem create_isOk_iff : (∃ c, Context.create config files = .ok c) ↔
    ∀ check : Check, check.Holds config files := by
  simp only [create_eq_ok_iff]
  constructor
  · rintro ⟨_, pair, own, hpair, hown, rfl⟩ check
    cases check with
    | certificateExists => exact hpair.provided.1
    | keyExists => exact hpair.provided.2
    | pairLoads => exact ⟨pair, hpair⟩
    | authoritiesLoad => exact ⟨own, hown⟩
    | authoritiesExist =>
        intro path hpath
        rw [LoadsAuthorities, hpath] at hown
        obtain ⟨parts, _, hlookup, _⟩ := hown
        exact ⟨_, hlookup⟩
  · intro h
    obtain ⟨pair, hpair⟩ := h .pairLoads
    obtain ⟨own, hown⟩ := h .authoritiesLoad
    exact ⟨_, pair, own, hpair, hown, rfl⟩

/-! ### Plain files -/

/-- If it is a file, all text in it is plain. -/
def Found.IsPlain : Found → Prop
  | .node (.file parts) => ∀ p ∈ parts, p.IsPlain
  | _ => True

instance : DecidablePred Found.IsPlain
  | .node (.file parts) => inferInstanceAs (Decidable (∀ p ∈ parts, p.IsPlain))
  | .node .directory | .nothing | .nameTooLong => inferInstanceAs (Decidable True)

/-- All files that are given are plain. -/
def AllPlain (config : Config) (files : Files) : Prop :=
  ∀ role path, config.path? role = some path → (files.lookup (.ofText path)).IsPlain

theorem AllPlain.parts (role : Role) {path : List Char} {parts : List Part}
    (h : AllPlain config files) (hpath : config.path? role = some path)
    (hlookup : files.lookup (.ofText path) = .node (.file parts)) : ∀ p ∈ parts, p.IsPlain := by
  have hfound := h role path hpath
  rwa [hlookup] at hfound

/-- The first certificate and the first key are of the same pair. -/
def FirstsMatch (config : Config) (files : Files) (pair : Pair) : Prop :=
  ∃ certificate key c, files.lookup (.ofText config.certificate) = .node (.file certificate) ∧
    files.lookup (.ofText config.key) = .node (.file key) ∧
    (contents certificate).find? Content.isCertificate = some (.certificate pair) ∧
    (contents key).find? Content.isKey = some c ∧ Opens config.password c pair

/-- A file of authorities that is given holds a certificate. -/
def HasAuthority (config : Config) (files : Files) : Prop :=
  ∀ path, config.path? .authorities = some path →
    ∃ parts pair, files.lookup (.ofText path) = .node (.file parts) ∧
      .certificate pair ∈ contents parts

theorem loadsPair_of_plain_iff (h : AllPlain config files) :
    LoadsPair config files pair ↔ FirstsMatch config files pair := by
  constructor
  · rintro ⟨certificate, key, hcertificate, hkey, hforms⟩
    obtain ⟨c, hc, hopens⟩ := hforms.key
    have hplain := h.parts .certificate rfl hcertificate
    have hplainKey := h.parts .key rfl hkey
    exact ⟨certificate, key, c, hcertificate, hkey,
      (presents_of_plain_iff hplain).mp hforms.certificate, (holdsKey_of_plain_iff hplainKey).mp hc,
      hopens⟩
  · rintro ⟨certificate, key, c, hcertificate, hkey, hfirst, hc, hopens⟩
    have hplain := h.parts .certificate rfl hcertificate
    have hplainKey := h.parts .key rfl hkey
    exact ⟨certificate, key, hcertificate, hkey, (presents_of_plain_iff hplain).mpr hfirst,
      c, (holdsKey_of_plain_iff hplainKey).mpr hc, hopens⟩

theorem eraseDups_ne_nil_iff {α : Type} [BEq α] [LawfulBEq α] {s : List α} :
    s.eraseDups ≠ [] ↔ s ≠ [] := by
  cases s <;> simp [List.eraseDups_cons]

theorem Content.certificate?_eq_some_iff {c : Content} :
    c.certificate? = some pair ↔ c = .certificate pair := by
  cases c <;> simp [Content.certificate?]

theorem trusts_some_of_plain_iff {parts : List Part} (h : ∀ p ∈ parts, p.IsPlain) :
    (∃ own, Trusts (readingsOf parts) own) ↔ ∃ pair, .certificate pair ∈ contents parts := by
  have hsome : (∃ own, Trusts (readingsOf parts) own) ↔
      (contents parts).filterMap Content.certificate? ≠ [] := by
    constructor
    · rintro ⟨own, htrusts⟩
      obtain ⟨rfl, hne⟩ := (trusts_of_plain_iff h).mp htrusts
      exact eraseDups_ne_nil_iff.mp hne
    · intro hne
      exact ⟨_, (trusts_of_plain_iff h).mpr ⟨rfl, eraseDups_ne_nil_iff.mpr hne⟩⟩
  rw [hsome, ne_eq, List.filterMap_eq_nil_iff]
  push Not
  simp only [Option.ne_none_iff_exists', Content.certificate?_eq_some_iff]
  exact ⟨fun ⟨_, hc, pair, hpair⟩ ↦ ⟨pair, hpair ▸ hc⟩, fun ⟨pair, hc⟩ ↦ ⟨_, hc, pair, rfl⟩⟩

theorem loadsAuthorities_of_plain_iff (h : AllPlain config files) :
    (∃ own, LoadsAuthorities config files own) ↔ HasAuthority config files := by
  cases hpath : config.path? .authorities with
  | none => simp [LoadsAuthorities, HasAuthority, hpath]
  | some path =>
      simp only [LoadsAuthorities, HasAuthority, hpath, Option.some.injEq, forall_eq']
      constructor
      · rintro ⟨_, parts, pairs, hlookup, htrusts, rfl⟩
        have hplain := h.parts .authorities hpath hlookup
        obtain ⟨pair, hpair⟩ := (trusts_some_of_plain_iff hplain).mp ⟨pairs, htrusts⟩
        exact ⟨parts, pair, hlookup, hpair⟩
      · rintro ⟨parts, pair, hlookup, hpair⟩
        have hplain := h.parts .authorities hpath hlookup
        obtain ⟨pairs, htrusts⟩ := (trusts_some_of_plain_iff hplain).mpr ⟨pair, hpair⟩
        exact ⟨some pairs, parts, pairs, hlookup, htrusts, rfl⟩

/-! ### The outcome -/

/-- A certificate behind a note, a locked key behind another certificate, and an authority. -/
def deviceFiles : Files :=
  [(["c.pem".toList], .file [.text "note\n".toList, .block (.certificate 1)]),
   (["k.pem".toList], .file [.block (.certificate 2), .block (.lockedKey 1)]),
   (["a.pem".toList], .file [.block (.certificate 2), .block (.certificate 2)])]

/-- The paths of a device's files, with the password of its key. -/
def deviceConfig (authorities : String) : Config :=
  ⟨"./c.pem".toList, "k.pem".toList, some authorities.toList, some "pw1"⟩

theorem deviceFiles_match (authorities : String) :
    FirstsMatch (deviceConfig authorities) deviceFiles 1 := by
  have hcertificate : deviceFiles.lookup (.ofText "./c.pem".toList) =
      .node (.file [.text "note\n".toList, .block (.certificate 1)]) := by decide
  have hkey : deviceFiles.lookup (.ofText "k.pem".toList) =
      .node (.file [.block (.certificate 2), .block (.lockedKey 1)]) := by decide
  have hpassword : Opens (some "pw1") (.lockedKey 1) 1 := by
    rw [← unlock_eq_ok_iff]
    decide
  exact ⟨_, _, .lockedKey 1, hcertificate, hkey, by decide, by decide, hpassword⟩

/-- A certificate behind which a block is begun and never ended, and its key. -/
def unendedFiles : Files :=
  [(["c.pem".toList], .file [.block (.certificate 1),
    .text "-----BEGIN CERTIFICATE-----\n".toList]),
   (["k.pem".toList], .file [.block (.key 1)])]

def unendedConfig : Config := ⟨"c.pem".toList, "k.pem".toList, none, none⟩

end SecureExchange.Credential
