import SecureExchange.Proofs.Credential.Holdings

/-!
# Loading a pair and authorities

A certificate and a key load if their files hold them and they form a pair (`LoadsPair`), and own
authorities if none are given or their file can be trusted (`LoadsAuthorities`). A context is made
exactly if both load, and of nothing else (`create_eq_ok_iff`).
-/

namespace SecureExchange.Credential

variable {config : Config} {files : Files} {pair : Pair}

/-- A certificate and a key of the same pair, which the password opens if it is locked. -/
structure FormsPair (certificate key : List Part) (password : Option String) (pair : Pair) :
    Prop where
  certificate : Presents (readingsOf certificate) pair
  key : ∃ c, HoldsKey (readingsOf key) c ∧ Opens password c pair

/-- The path that is given for a role. An empty one is none for authorities. -/
def Config.path? (config : Config) : Role → Option (List Char)
  | .certificate => some config.certificate
  | .key => some config.key
  | .authorities =>
    match config.authorities with
    | none | some [] => none
    | some path => some path

def LoadsPair (config : Config) (files : Files) (pair : Pair) : Prop :=
  ∃ certificate key, files.lookup (.ofText config.certificate) = .node (.file certificate) ∧
    files.lookup (.ofText config.key) = .node (.file key) ∧
    FormsPair certificate key config.password pair

/-- Without a path for them there are no own authorities. -/
def LoadsAuthorities (config : Config) (files : Files) (own : Option (List Pair)) : Prop :=
  match config.path? .authorities with
  | none => own = none
  | some path => ∃ parts pairs, files.lookup (.ofText path) = .node (.file parts) ∧
      Trusts (readingsOf parts) pairs ∧ own = some pairs

theorem existing_eq_ok_iff (role : Role) {path : List Char} {n : Node} :
    existing role path files = .ok n ↔ files.lookup (.ofText path) = .node n := by
  rw [existing]
  split <;> simp_all

theorem Node.readings_file (parts : List Part) :
    (Node.file parts).readings = .ok (readingsOf parts) := rfl

theorem Node.readings_directory : Node.directory.readings = .error .isDirectory := rfl

theorem loadPair_eq_ok_iff {certificateNode keyNode : Node} {password : Option String} :
    loadPair certificateNode keyNode password = .ok pair ↔ ∃ certificate key,
      certificateNode = .file certificate ∧ keyNode = .file key ∧
      FormsPair certificate key password pair := by
  cases certificateNode with
  | directory => simp [loadPair, Node.readings_directory]
  | file certificate =>
  cases keyNode with
  | directory =>
      cases hown : ownCertificate? (readingsOf certificate) <;>
        simp [loadPair, Node.readings_file, Node.readings_directory, hown]
  | file key =>
  have hforms : (∃ certificate' key', Node.file certificate = .file certificate' ∧
      Node.file key = .file key' ∧ FormsPair certificate' key' password pair) ↔
      ownCertificate? (readingsOf certificate) = some pair ∧
        ∃ c, ownKey? (readingsOf key) = some c ∧ unlock password c = .ok pair := by
    simp only [ownCertificate?_eq_some_iff, ownKey?_eq_some_iff, unlock_eq_ok_iff]
    constructor
    · rintro ⟨_, _, ⟨⟩, ⟨⟩, h⟩
      exact ⟨h.certificate, h.key⟩
    · rintro ⟨hcertificate, hkey⟩
      exact ⟨certificate, key, rfl, rfl, hcertificate, hkey⟩
  rw [hforms]
  cases hown : ownCertificate? (readingsOf certificate) with
  | none => simp [loadPair, Node.readings_file, hown]
  | some own =>
  cases hkey : ownKey? (readingsOf key) with
  | none => simp [loadPair, Node.readings_file, hown, hkey]
  | some c =>
  cases hunlock : unlock password c with
  | error e => simp [loadPair, Node.readings_file, hown, hkey, hunlock]
  | ok keyPair =>
      by_cases hsame : keyPair = own
      · simp [loadPair, Node.readings_file, hown, hkey, hunlock, hsame]
      · have hother : ¬ (own = pair ∧ keyPair = pair) := fun ⟨h, h'⟩ ↦ hsame (h'.trans h.symm)
        simpa [loadPair, Node.readings_file, hown, hkey, hunlock, hsame] using hother

theorem loadAuthorities_eq_ok_iff {n : Node} {own : List Pair} :
    loadAuthorities n = .ok own ↔ ∃ parts, n = .file parts ∧ Trusts (readingsOf parts) own := by
  cases n with
  | directory => simp [loadAuthorities, Node.readings_directory]
  | file parts =>
  have htrusts : (∃ parts', Node.file parts = .file parts' ∧ Trusts (readingsOf parts') own) ↔
      ∃ pairs, certificates? (readingsOf parts) = some pairs ∧ own = pairs.eraseDups ∧
        own ≠ [] := by
    simp only [certificates?_eq_some_iff]
    constructor
    · rintro ⟨_, ⟨⟩, h⟩
      exact ⟨_, ⟨h.wellFormed, h.mayStand, rfl⟩, h.distinct, h.nonempty⟩
    · rintro ⟨_, ⟨hwell, hmay, rfl⟩, hown, hne⟩
      exact ⟨parts, rfl, hwell, hmay, hown, hne⟩
  rw [htrusts]
  cases hall : certificates? (readingsOf parts) with
  | none => simp [loadAuthorities, Node.readings_file, hall]
  | some pairs =>
  cases hdistinct : pairs.eraseDups with
  | nil => simp [loadAuthorities, Node.readings_file, hall, hdistinct]
  | cons first rest =>
      simp only [loadAuthorities, Node.readings_file, hall, Option.map_some, hdistinct]
      constructor
      · rintro ⟨⟩
        exact ⟨pairs, rfl, hdistinct.symm, List.cons_ne_nil first rest⟩
      · rintro ⟨_, ⟨⟩, rfl, _⟩
        rw [hdistinct]

theorem authoritiesOf_eq (config : Config) (files : Files) :
    authoritiesOf config.authorities files =
      match config.path? .authorities with
      | none => .ok none
      | some path =>
        match existing .authorities path files with
        | .error e => .error e
        | .ok n => (loadAuthorities n).map some := by
  obtain ⟨c, k, authorities, password⟩ := config
  cases authorities with
  | none => rfl
  | some path => cases path <;> rfl

theorem authoritiesOf_eq_ok_iff {own : Option (List Pair)} :
    authoritiesOf config.authorities files = .ok own ↔ LoadsAuthorities config files own := by
  rw [authoritiesOf_eq, LoadsAuthorities]
  cases hpath : config.path? .authorities with
  | none => simp [eq_comm]
  | some path =>
      have hloads : (∃ parts pairs, files.lookup (.ofText path) = .node (.file parts) ∧
          Trusts (readingsOf parts) pairs ∧ own = some pairs) ↔
          ∃ n, existing .authorities path files = .ok n ∧
            ∃ pairs, loadAuthorities n = .ok pairs ∧ own = some pairs := by
        simp only [existing_eq_ok_iff, loadAuthorities_eq_ok_iff]
        constructor
        · rintro ⟨parts, pairs, hlookup, htrusts, hown⟩
          exact ⟨_, hlookup, pairs, ⟨parts, rfl, htrusts⟩, hown⟩
        · rintro ⟨_, hlookup, pairs, ⟨parts, rfl, htrusts⟩, hown⟩
          exact ⟨parts, pairs, hlookup, htrusts, hown⟩
      simp only [hloads]
      cases hexisting : existing .authorities path files with
      | error e => simp
      | ok n => cases hload : loadAuthorities n <;> simp [hload, Except.map, eq_comm]

theorem loadsPair_iff : LoadsPair config files pair ↔ ∃ certificate key,
    existing .certificate config.certificate files = .ok certificate ∧
      existing .key config.key files = .ok key ∧
      loadPair certificate key config.password = .ok pair := by
  simp only [LoadsPair, existing_eq_ok_iff, loadPair_eq_ok_iff]
  constructor
  · rintro ⟨certificate, key, hcertificate, hkey, hforms⟩
    exact ⟨_, _, hcertificate, hkey, certificate, key, rfl, rfl, hforms⟩
  · rintro ⟨_, _, hcertificate, hkey, certificate, key, rfl, rfl, hforms⟩
    exact ⟨certificate, key, hcertificate, hkey, hforms⟩

theorem create_of_loadsPair (h : LoadsPair config files pair) :
    Context.create config files = (authoritiesOf config.authorities files).map
      fun own ↦ ⟨true, .required, .v1_2, pair, own⟩ := by
  obtain ⟨certificate, key, hcertificate, hkey, hpair⟩ := loadsPair_iff.mp h
  simp only [Context.create, hcertificate, hkey, hpair]

theorem loadsPair_of_create {c : Context} (h : Context.create config files = .ok c) :
    ∃ pair, LoadsPair config files pair := by
  simp only [loadsPair_iff]
  unfold Context.create at h
  split at h
  · simp at h
  · next certificate hcertificate =>
      split at h
      · simp at h
      · next key hkey =>
          split at h
          · simp at h
          · next pair hpair => exact ⟨pair, certificate, key, hcertificate, hkey, hpair⟩

theorem create_eq_ok_iff {c : Context} : Context.create config files = .ok c ↔
    ∃ pair own, LoadsPair config files pair ∧ LoadsAuthorities config files own ∧
      c = { checksHostName := true, peerCheck := .required, leastVersion := .v1_2, pair,
            ownAuthorities := own } := by
  constructor
  · intro h
    obtain ⟨pair, hpair⟩ := loadsPair_of_create h
    rw [create_of_loadsPair hpair] at h
    cases hown : authoritiesOf config.authorities files with
    | error e => simp [hown, Except.map] at h
    | ok own =>
        rw [hown] at h
        exact ⟨pair, own, hpair, authoritiesOf_eq_ok_iff.mp hown, (Except.ok.inj h).symm⟩
  · rintro ⟨pair, own, hpair, hown, rfl⟩
    rw [create_of_loadsPair hpair, authoritiesOf_eq_ok_iff.mpr hown]
    rfl

end SecureExchange.Credential
