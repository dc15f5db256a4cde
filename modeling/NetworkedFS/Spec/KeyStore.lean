import NetworkedFS.ForStd.Except
import NetworkedFS.ForStd.StepRun
import NetworkedFS.ForStd.TableChange
import NetworkedFS.Native.EncryptionOffline

/-!
# Keys by address

The tables of `encryption_offline` against what was set last.  `setKeys` and
`addAddressSecret` call `emplace`, which leaves an entry that is there as it is, so a key
that is to replace another one for its address is dropped without a word.

## Key results

- `keysPaired_of_mem_visited`: keys and vectors belong together throughout every run;
- `holdsLatest_iff_fresh`: the tables hold what was set last exactly when nothing is set for
  an address that has something else.
-/

namespace NetworkedFS

/-- A key with its initialization vector. -/
abbrev KeyPair := List UInt8 × List UInt8

/-- The tables, what was set last for each address and not wiped since, and all keys that
    were ever set, with their vectors. -/
structure KeyStore where
  tables : EncryptionOffline
  latestKeys : String → Option KeyPair
  latestSecret : String → Option (List UInt8)
  given : List (String × KeyPair)

namespace KeyStore

/-- The operations on the tables. -/
inductive Op where
  | setKeys (key iv : List UInt8) (address : String)
  | wipeKeys (address : String)
  | addAddressSecret (address : String) (secret : List UInt8)
  | wipeAddressSecret (address : String)
  | setDefault (secret : List UInt8)
  | wipeDefault
  deriving DecidableEq

/-- Runs an operation on the tables. -/
def Op.apply (tables : EncryptionOffline) : Op → Except Fault EncryptionOffline
  | .setKeys key iv address => tables.setKeys key iv address
  | .wipeKeys address => .ok (tables.wipeKeys address)
  | .addAddressSecret address secret => tables.addAddressSecret address secret
  | .wipeAddressSecret address => .ok (tables.wipeAddressSecret address)
  | .setDefault secret => tables.setDefault secret
  | .wipeDefault => .ok tables.wipeDefault

/-- The assertions on the arguments. -/
def Op.asserts : Op → Prop
  | .setKeys _ _ address => address ≠ ""
  | .addAddressSecret address secret => address ≠ "" ∧ secret ≠ []
  | .setDefault secret => secret ≠ []
  | _ => True

/-- What an operation is asked to change of the keys. -/
def Op.keyChange : Op → TableChange String KeyPair
  | .setKeys key iv address =>
    .set address (EncryptionOffline.stringOf key, EncryptionOffline.stringOf iv)
  | .wipeKeys address => .wipe address
  | .setDefault _ =>
    .set encryptionStartupAddress (EncryptionOffline.stringOf encryptionStartupKey,
      EncryptionOffline.stringOf encryptionStartupIv)
  | .wipeDefault => .wipe encryptionStartupAddress
  | _ => .keep

/-- What an operation is asked to change of the secrets. -/
def Op.secretChange : Op → TableChange String (List UInt8)
  | .addAddressSecret address secret => .set address secret
  | .wipeAddressSecret address => .wipe address
  | .setDefault secret => .set encryptionStartupAddress secret
  | .wipeDefault => .wipe encryptionStartupAddress
  | _ => .keep

/-- One operation, which counts as the latest for its address. -/
def step (s : KeyStore) (op : Op) : Except Fault (Unit × KeyStore) :=
  (op.apply s.tables).map fun tables => ((), {
    tables
    latestKeys := op.keyChange.overwrite s.latestKeys
    latestSecret := op.secretChange.overwrite s.latestSecret
    given := match op.keyChange with
      | .set address pair => (address, pair) :: s.given
      | _ => s.given })

/-- Nothing was called yet. -/
def construct : KeyStore := ⟨{}, fun _ => none, fun _ => none, []⟩

/-! ## One operation -/

/-- A call of `setKeys` that returns passed its assertion. -/
theorem setKeys_eq_ok {tables tables' : EncryptionOffline} {key iv : List UInt8} {address : String}
    (h : tables.setKeys key iv address = .ok tables') :
    address ≠ "" ∧ tables' = { tables with
      keys := tables.keys.emplace address (EncryptionOffline.stringOf key)
      ivs := tables.ivs.emplace address (EncryptionOffline.stringOf iv) } := by
  unfold EncryptionOffline.setKeys at h
  split at h
  · cases h
  · next haddress =>
    cases h
    exact ⟨haddress, rfl⟩

/-- A call of `addAddressSecret` that returns passed its assertion. -/
theorem addAddressSecret_eq_ok {tables tables' : EncryptionOffline} {address : String}
    {secret : List UInt8} (h : tables.addAddressSecret address secret = .ok tables') :
    (address ≠ "" ∧ secret ≠ []) ∧
      tables' = { tables with secrets := tables.secrets.emplace address secret } := by
  unfold EncryptionOffline.addAddressSecret at h
  split at h
  · cases h
  · next hargs =>
    cases h
    exact ⟨not_or.mp hargs, rfl⟩

/-- An operation that returns passed its assertions, and has changed the tables as it was
    asked to, except that entries that were there stay. -/
theorem apply_eq_ok {op : Op} {tables tables' : EncryptionOffline}
    (h : op.apply tables = .ok tables') : op.asserts ∧
      tables'.keys.get = (op.keyChange.map Prod.fst).emplace tables.keys.get ∧
      tables'.ivs.get = (op.keyChange.map Prod.snd).emplace tables.ivs.get ∧
      tables'.secrets.get = op.secretChange.emplace tables.secrets.get := by
  cases op with
  | setKeys key iv address =>
    obtain ⟨haddress, rfl⟩ := setKeys_eq_ok h
    exact ⟨haddress, UMap.get_emplace _ _ _, UMap.get_emplace _ _ _, rfl⟩
  | wipeKeys address =>
    cases h
    exact ⟨trivial, UMap.get_erase _ _, UMap.get_erase _ _, rfl⟩
  | addAddressSecret address secret =>
    obtain ⟨hargs, rfl⟩ := addAddressSecret_eq_ok h
    exact ⟨hargs, rfl, rfl, UMap.get_emplace _ _ _⟩
  | wipeAddressSecret address =>
    cases h
    exact ⟨trivial, rfl, rfl, UMap.get_erase _ _⟩
  | setDefault secret =>
    obtain ⟨tables₁, hsecret, hkeys⟩ := Except.bind_eq_ok_iff.mp h
    obtain ⟨hargs, rfl⟩ := addAddressSecret_eq_ok hsecret
    obtain ⟨-, rfl⟩ := setKeys_eq_ok hkeys
    exact ⟨hargs.2, UMap.get_emplace _ _ _, UMap.get_emplace _ _ _, UMap.get_emplace _ _ _⟩
  | wipeDefault =>
    cases h
    exact ⟨trivial, UMap.get_erase _ _, UMap.get_erase _ _, UMap.get_erase _ _⟩

/-- An operation whose assertions hold returns. -/
theorem apply_returns {op : Op} (tables : EncryptionOffline) (h : op.asserts) :
    ∃ tables', op.apply tables = .ok tables' := by
  cases op with
  | setKeys key iv address => exact ⟨_, if_neg h⟩
  | addAddressSecret address secret => exact ⟨_, if_neg (not_or.mpr h)⟩
  | setDefault secret =>
    refine ⟨_, Except.bind_eq_ok_iff.mpr ⟨_, if_neg (not_or.mpr ⟨?_, h⟩), if_neg ?_⟩⟩ <;> decide
  | wipeKeys address => exact ⟨_, rfl⟩
  | wipeAddressSecret address => exact ⟨_, rfl⟩
  | wipeDefault => exact ⟨_, rfl⟩

/-! ## Keys and vectors -/

/-- The key of an address and its vector. -/
def keyPair (s : KeyStore) (address : String) : Option KeyPair :=
  (s.tables.keys.get address).bind fun key =>
    (s.tables.ivs.get address).map fun iv => (key, iv)

/-- Keys and vectors belong together. -/
structure KeysPaired (s : KeyStore) : Prop where
  sameAddresses : ∀ address, s.tables.keys.get address = none ↔ s.tables.ivs.get address = none
  sameCall : ∀ address pair, s.keyPair address = some pair → (address, pair) ∈ s.given

/-- When keys and vectors have the same addresses, each table is one half of the pairs. -/
theorem KeysPaired.get_eq {s : KeyStore} (h : s.KeysPaired) :
    s.tables.keys.get = (fun a => (s.keyPair a).map Prod.fst) ∧
      s.tables.ivs.get = fun a => (s.keyPair a).map Prod.snd := by
  have hboth : ∀ a, s.tables.keys.get a = (s.keyPair a).map Prod.fst ∧
      s.tables.ivs.get a = (s.keyPair a).map Prod.snd := by
    intro a
    have hsame := h.sameAddresses a
    unfold keyPair
    cases hkey : s.tables.keys.get a with
    | none => simp [hsame.mp hkey]
    | some key =>
      cases hiv : s.tables.ivs.get a with
      | none =>
        rw [hsame.mpr hiv] at hkey
        cases hkey
      | some iv => simp
  exact ⟨funext fun a => (hboth a).1, funext fun a => (hboth a).2⟩

/-- What both tables are halves of is what `keyPair` gives. -/
theorem keyPair_eq {s : KeyStore} {f : String → Option KeyPair}
    (hkeys : s.tables.keys.get = fun a => (f a).map Prod.fst)
    (hivs : s.tables.ivs.get = fun a => (f a).map Prod.snd) : s.keyPair = f := by
  funext a
  rw [keyPair, hkeys, hivs]
  cases hf : f a <;> simp [hf]

/-- A call changes the pairs as a whole. -/
theorem keyPair_step {s s' : KeyStore} {op : Op} (hs : s.KeysPaired)
    (h : s.step op = .ok ((), s')) :
    s'.tables.keys.get = (fun a => (op.keyChange.emplace s.keyPair a).map Prod.fst) ∧
      s'.tables.ivs.get = fun a => (op.keyChange.emplace s.keyPair a).map Prod.snd := by
  obtain ⟨tables, happly, heq⟩ := Except.map_eq_ok_iff.mp h
  cases heq
  obtain ⟨-, hkeys, hivs, -⟩ := apply_eq_ok happly
  obtain ⟨hkeysBefore, hivsBefore⟩ := hs.get_eq
  rw [hkeysBefore, TableChange.emplace_map] at hkeys
  rw [hivsBefore, TableChange.emplace_map] at hivs
  exact ⟨hkeys, hivs⟩

/-- A call keeps keys and vectors together. -/
theorem KeysPaired.step {s s' : KeyStore} {op : Op} (hs : s.KeysPaired)
    (h : s.step op = .ok ((), s')) : s'.KeysPaired := by
  obtain ⟨hkeys, hivs⟩ := keyPair_step hs h
  refine ⟨?_, ?_⟩
  · intro address
    rw [hkeys, hivs]
    simp
  · intro address pair hpair
    rw [keyPair_eq hkeys hivs] at hpair
    obtain ⟨tables, -, heq⟩ := Except.map_eq_ok_iff.mp h
    cases heq
    -- the pair was set by an earlier call, or by this one
    rcases TableChange.eq_some_of_emplace hpair with hbefore | hset
    · have hgiven := hs.sameCall address pair hbefore
      show _ ∈ match op.keyChange with
        | .set address pair => (address, pair) :: s.given
        | _ => s.given
      split
      · exact List.mem_cons_of_mem _ hgiven
      · exact hgiven
    · simp only [hset]
      exact List.mem_cons_self

/-- Empty tables are paired. -/
theorem keysPaired_construct : construct.KeysPaired := by
  refine ⟨fun address => Iff.rfl, ?_⟩
  intro address pair h
  cases h

/-- In every run the keys and the vectors have the same addresses, and each key has the vector
    that was set with it. -/
theorem keysPaired_of_mem_visited (ops : List Op) :
    ∀ s ∈ StepRun.visited step construct ops, s.KeysPaired :=
  StepRun.forall_visited_of_calls (fun _ _ _ _ hs (_ : True) hok => hs.step hok)
    keysPaired_construct ops (fun _ _ => trivial)

/-! ## What was set last -/

/-- The tables hold what was set last for each address and not wiped since. -/
structure HoldsLatest (s : KeyStore) : Prop where
  keys : ∀ address, s.tables.keys.get address = (s.latestKeys address).map Prod.fst
  ivs : ∀ address, s.tables.ivs.get address = (s.latestKeys address).map Prod.snd
  secrets : ∀ address, s.tables.secrets.get address = s.latestSecret address

/-- Then `AESEncrypt` and `AESDecrypt` use what was set last. -/
theorem HoldsLatest.addressEntries_eq {s : KeyStore} (hs : s.HoldsLatest) (address : String) :
    s.tables.addressEntries address =
      match s.latestSecret address, s.latestKeys address with
      | some secret, some (key, iv) => .ok (secret, key, iv)
      | _, _ => .error .assertion := by
  have hkeys : s.tables.keys.lookup address = _ := hs.keys address
  have hivs : s.tables.ivs.lookup address = _ := hs.ivs address
  have hsecrets : s.tables.secrets.lookup address = _ := hs.secrets address
  rw [EncryptionOffline.addressEntries, hkeys, hivs, hsecrets]
  cases s.latestSecret address <;> cases s.latestKeys address <;> rfl

/-- A call whose assertions hold sets nothing for an address that has something else. -/
def Fresh (s : KeyStore) (op : Op) : Prop :=
  op.asserts → op.keyChange.Fresh s.keyPair ∧ op.secretChange.Fresh s.tables.secrets.get

/-- While the tables hold what was set last, a call keeps this up exactly when what it sets is
    fresh. -/
theorem HoldsLatest.step_iff {s : KeyStore} (hs : s.HoldsLatest) (hpaired : s.KeysPaired)
    (op : Op) : (∀ s', s.step op = .ok ((), s') → s'.HoldsLatest) ↔ s.Fresh op := by
  have hpair : s.keyPair = s.latestKeys := keyPair_eq (funext hs.keys) (funext hs.ivs)
  have hsecret : s.tables.secrets.get = s.latestSecret := funext hs.secrets
  rw [Fresh, ← TableChange.emplace_eq_overwrite_iff, ← TableChange.emplace_eq_overwrite_iff]
  constructor
  · intro hlaw hasserts
    obtain ⟨tables, happly⟩ := apply_returns s.tables hasserts
    have hok : s.step op = .ok ((), _) := Except.map_eq_ok_iff.mpr ⟨tables, happly, rfl⟩
    have hlatest := hlaw _ hok
    obtain ⟨hkeys, hivs⟩ := keyPair_step hpaired hok
    obtain ⟨-, -, -, hsecrets⟩ := apply_eq_ok happly
    constructor
    · -- the pairs after the call are the latest ones, and what `emplace` leaves
      rw [← keyPair_eq hkeys hivs, hpair]
      exact keyPair_eq (funext hlatest.keys) (funext hlatest.ivs)
    · rw [← hsecrets, hsecret]
      exact funext hlatest.secrets
  · rintro hfresh s' hok
    obtain ⟨hkeys, hivs⟩ := keyPair_step hpaired hok
    obtain ⟨tables, happly, heq⟩ := Except.map_eq_ok_iff.mp hok
    cases heq
    obtain ⟨hasserts, -, -, hsecrets⟩ := apply_eq_ok happly
    obtain ⟨hfreshKeys, hfreshSecrets⟩ := hfresh hasserts
    rw [hfreshKeys, hpair] at hkeys hivs
    rw [hfreshSecrets, hsecret] at hsecrets
    exact ⟨congrFun hkeys, congrFun hivs, congrFun hsecrets⟩

/-- Empty tables hold what was set last. -/
theorem holdsLatest_construct : construct.HoldsLatest := ⟨fun _ => rfl, fun _ => rfl, fun _ => rfl⟩

/-- In a run from empty tables, the tables hold what was set last throughout, with keys and
    vectors together, exactly when no call sets anything for an address that has something
    else. -/
theorem holdsLatest_iff_fresh (ops : List Op) :
    (∀ s ∈ StepRun.visited step construct ops, s.HoldsLatest ∧ s.KeysPaired) ↔
      ∀ c ∈ StepRun.calls step construct ops, c.1.Fresh c.2 := by
  rw [StepRun.forall_visited_iff, and_iff_right ⟨holdsLatest_construct, keysPaired_construct⟩]
  have hlaw : ∀ (s : KeyStore) (op : Op), s.HoldsLatest ∧ s.KeysPaired →
      ((∀ o s', s.step op = .ok (o, s') → s'.HoldsLatest ∧ s'.KeysPaired) ↔ s.Fresh op) := by
    rintro s op ⟨hs, hpaired⟩
    rw [← hs.step_iff hpaired op]
    constructor
    · intro hlaw s' hok
      exact (hlaw () s' hok).1
    · intro hlaw _ s' hok
      exact ⟨hlaw s' hok, hpaired.step hok⟩
  exact StepRun.forall_calls_iff hlaw
    (fun s op o s' hs hfresh hok => (hlaw s op hs).mpr hfresh o s' hok)
    ⟨holdsLatest_construct, keysPaired_construct⟩ ops

/-- A second key for an address is dropped. -/
theorem rekeyed_not_latest :
    ¬ ∀ ops : List Op, ∀ s ∈ StepRun.visited step construct ops, s.HoldsLatest ∧ s.KeysPaired := by
  intro hall
  let ops : List Op := [.setKeys [49] [49] "a", .setKeys [50] [50] "a"]
  have hkeys := (hall ops _ (StepRun.final_mem_visited _ ops)).1.keys "a"
  exact absurd hkeys (by decide)

end KeyStore

end NetworkedFS
