import Goddess.Http
import Mathlib.Data.List.Nodup

/-!
# The control service's two read methods

`ControlService` keeps the gateway configs and features it has loaded in two maps. Its methods
`GetGatewayRelease` and `GetGatewayFeatures` run under `s.mu.RLock()`, released by a deferred
`s.mu.RUnlock()`. On a cache miss they call `loadConfigFromFile` or `loadFeaturesFromFile`, which
reads and decodes the gateway's file and stores the result under `s.mu.Lock()`.

The two methods differ only in the map they read, the file they load and how they answer, so they
are one `ReadMethod`. It is given as the code a call runs between its calls on `s.mu`, and
`Goddess.Control.Lock` runs those calls against the mutex. The file system and the YAML, JSON and
protobuf codecs are parameters (`Disk`). A path is the list of the arguments given to
`filepath.Join`. Go maps are association lists with distinct keys. Their iteration order is the
order of the list.
-/

namespace Goddess.Control

/-- A Go `map[string]V`: its entries, each key once. -/
structure GoMap (V : Type) where
  entries : List (String × V)
  nodup : (entries.map Prod.fst).Nodup

namespace GoMap

variable {V : Type}

/-- Go's `make(map[string]V)`. -/
def empty : GoMap V := ⟨[], List.nodup_nil⟩

/-- Go's `m[k]`, with its `ok`. -/
def find? (m : GoMap V) (k : String) : Option V := m.entries.lookup k

/-- Go's `len(m)`. -/
def size (m : GoMap V) : Nat := m.entries.length

/-- Go's `m[k] = v`. -/
def insert (m : GoMap V) (k : String) (v : V) : GoMap V where
  entries := (k, v) :: m.entries.filter (·.1 != k)
  nodup := by
    rw [List.map_cons, List.nodup_cons]
    exact ⟨by simp, m.nodup.sublist ((List.filter_sublist _).map _)⟩

@[simp] theorem find?_empty (k : String) : (empty : GoMap V).find? k = none := rfl

@[simp] theorem find?_insert_self (m : GoMap V) (k : String) (v : V) :
    (m.insert k v).find? k = some v :=
  List.lookup_cons_self

theorem lookup_filter_ne {l : List (String × V)} {k k' : String} (h : k' ≠ k) :
    (l.filter (·.1 != k)).lookup k' = l.lookup k' := by
  induction l with
  | nil => rfl
  | cons e l ih =>
    obtain ⟨a, b⟩ := e
    by_cases ha : a = k
    · subst ha
      simp [List.lookup_cons, beq_false_of_ne h, ih]
    · simp [List.filter_cons, ha, List.lookup_cons, ih]

theorem find?_insert (m : GoMap V) (k k' : String) (v : V) :
    (m.insert k v).find? k' = if k' = k then some v else m.find? k' := by
  split_ifs with h
  · subst h; exact find?_insert_self m k' v
  · show ((k, v) :: m.entries.filter (·.1 != k)).lookup k' = m.entries.lookup k'
    rw [List.lookup_cons, beq_false_of_ne h]
    exact lookup_filter_ne h

theorem lookup_append_singleton (l : List (String × V)) (a k : String) (b : V) :
    (l ++ [(a, b)]).lookup k = (l.lookup k).or (if k = a then some b else none) := by
  induction l with
  | nil => by_cases h : k = a <;> simp [List.lookup_cons, h, beq_false_of_ne]
  | cons e l ih =>
    obtain ⟨a', b'⟩ := e
    by_cases h : k = a' <;> simp [List.lookup_cons, h, ih, beq_false_of_ne]

/-- A map built by inserting `kvs` in order gives, for each key, the value inserted last. -/
theorem find?_foldl_insert (m : GoMap V) (kvs : List (String × V)) (k : String) :
    (kvs.foldl (fun m kv => m.insert kv.1 kv.2) m).find? k = (kvs.reverse.lookup k).or (m.find? k) := by
  induction kvs generalizing m with
  | nil => rfl
  | cons kv kvs ih =>
    rw [List.foldl_cons, ih, find?_insert, List.reverse_cons, lookup_append_singleton,
      Option.or_assoc]
    split_ifs <;> rfl

/-- A fold that inserts what `g` makes of each element, skipping those it makes nothing of. -/
theorem foldl_filterMap {α : Type} (g : α → Option (String × V)) {f : GoMap V → α → GoMap V}
    (hf : ∀ m a, f m a = (g a).elim m fun kv => m.insert kv.1 kv.2) (l : List α) (m : GoMap V) :
    l.foldl f m = (l.filterMap g).foldl (fun m kv => m.insert kv.1 kv.2) m := by
  induction l generalizing m with
  | nil => rfl
  | cons a l ih =>
    rw [List.foldl_cons, List.filterMap_cons, hf]
    cases g a <;> exact ih _

/-- A lookup in the reversed pairs `g` makes of `l` finds the pair of the last element that
makes one with its key. -/
theorem lookup_reverse_filterMap_eq_some {α : Type} (g : α → Option (String × V)) (l : List α)
    (k : String) (v : V) : (l.filterMap g).reverse.lookup k = some v ↔
      ∃ pre a post, l = pre ++ a :: post ∧ g a = some (k, v) ∧
        ∀ b ∈ post, ∀ v', g b ≠ some (k, v') := by
  rw [List.lookup_eq_some_iff]
  constructor
  · rintro ⟨l₁, l₂, hl, hne⟩
    have hfm : l.filterMap g = l₂.reverse ++ (k, v) :: l₁.reverse := by
      rw [← List.reverse_reverse (l.filterMap g), hl]
      simp
    obtain ⟨e₁, e₂, rfl, -, h₂⟩ := List.filterMap_eq_append_iff.1 hfm
    obtain ⟨m₁, a, m₂, rfl, -, ha, hm₂⟩ := List.filterMap_eq_cons_iff.1 h₂
    refine ⟨e₁ ++ m₁, a, m₂, by simp, ha, fun b hb v' hgb => ?_⟩
    have hmem : (k, v') ∈ l₁ := by
      rw [← List.mem_reverse, ← hm₂]
      exact List.mem_filterMap.2 ⟨b, hb, hgb⟩
    simpa using hne _ hmem
  · rintro ⟨pre, a, post, rfl, ha, hpost⟩
    refine ⟨(post.filterMap g).reverse, (pre.filterMap g).reverse, by simp [ha], ?_⟩
    rintro ⟨k', v'⟩ hp
    obtain ⟨b, hb, hgb⟩ := List.mem_filterMap.1 (List.mem_reverse.1 hp)
    rw [bne_iff_ne]
    rintro rfl
    exact hpost b hb v' hgb

end GoMap

/-- A `PriorityConfigData`, over the protobuf message type `Pc`. -/
structure PriorityConfigData (Pc : Type) where
  config : Pc
  version : String

/-- A `GatewayConfig`, over the protobuf message types `Gw` and `Pc`. -/
structure GatewayConfig (Gw Pc : Type) where
  config : Gw
  version : String
  priorityConfigs : GoMap (PriorityConfigData Pc)

/-- A `GatewayFeatures`. -/
structure GatewayFeatures where
  features : GoMap Bool

/-- A `ControlService`, without its mutex `mu`, which `Goddess.Control.Lock` keeps beside it. -/
structure ControlService (Gw Pc : Type) where
  dataDir : String
  configs : GoMap (GatewayConfig Gw Pc)
  features : GoMap GatewayFeatures

/-- An entry of `os.ReadDir`. -/
structure DirEntry where
  name : String
  isDir : Bool

/-- What the service reads through the standard library and its codecs: whether `os.Stat` fails
with an error for which `os.IsNotExist` holds, `os.ReadFile` and `os.ReadDir`;
`yaml.YAMLToJSON` followed by `protojson.Unmarshal` into a `configv1.Gateway` or a
`configv1.PriorityConfig`; `json.Unmarshal` into a `GatewayFeatures`; and `protojson.Marshal`
of the two messages. -/
structure Disk (Gw Pc : Type) where
  notExist : List String → Bool
  readFile : List String → Except GoError String
  readDir : List String → Except GoError (List DirEntry)
  unmarshalGateway : String → Except GoError Gw
  unmarshalPriority : String → Except GoError Pc
  unmarshalFeatures : String → Except GoError GatewayFeatures
  marshalGateway : Gw → Except GoError String
  marshalPriority : Pc → Except GoError String

/-- The errors the two methods return: a `statusError`, or an error of a library call. -/
inductive ControlError where
  | status (statusCode : Nat) (message : String)
  | go (err : GoError)

/-- A `PriorityConfigItem`. -/
structure PriorityConfigItem where
  key : String
  config : String
  version : String

/-- A `LoadResponse`. -/
structure LoadResponse where
  config : String
  version : String
  priorityConfigs : List PriorityConfigItem

/-- A `LoadFeatureResponse`. -/
structure LoadFeatureResponse where
  gateway : String
  features : GoMap Bool

section Files

variable {Gw Pc : Type} (disk : Disk Gw Pc)

/-- Go's `filepath.Ext` of a base name: from its last dot on, or empty without one. -/
def ext (name : String) : String :=
  match name.revPosOf '.' with
  | some p => name.extract p name.endPos
  | none => ""

/-- A version file as `loadConfigFromFile` reads it: its text under `strings.TrimSpace`, and
`"v1.0.0"` when it cannot be read or is blank. -/
def readVersion (path : List String) : String :=
  match disk.readFile path with
  | .ok data =>
    let version : String := ⟨trimSpace data.toList⟩
    if version = "" then "v1.0.0" else version
  | .error _ => "v1.0.0"

/-- The start that `loadConfigFromFile` and `loadFeaturesFromFile` share: nothing when the file
does not exist, else the decoded file or the error of reading or decoding it. -/
def decodeFile {α : Type} (path : List String) (decode : String → Except GoError α) :
    Except GoError (Option α) :=
  if disk.notExist path then .ok none else (disk.readFile path >>= decode).map some

/-- One turn of the loop over the priority directory: the key and data it stores, or nothing
where the loop continues. -/
def readPriorityEntry (priorityDir : List String) (entry : DirEntry) :
    Option (String × PriorityConfigData Pc) :=
  if entry.isDir || ext entry.name != ".yaml" then none
  else
    let key := entry.name.dropRight 5
    match disk.readFile (priorityDir ++ [entry.name]) >>= disk.unmarshalPriority with
    | .error _ => none
    | .ok pc => some (key, ⟨pc, readVersion disk (priorityDir ++ [key ++ ".version.txt"])⟩)

/-- The priority configs `loadConfigFromFile` collects; none when the directory cannot be read. -/
def readPriorityConfigs (priorityDir : List String) : GoMap (PriorityConfigData Pc) :=
  match disk.readDir priorityDir with
  | .error _ => GoMap.empty
  | .ok entries =>
    entries.foldl (fun m entry =>
      match readPriorityEntry disk priorityDir entry with
      | some (key, data) => m.insert key data
      | none => m) GoMap.empty

/-- The loop's map is a lookup in the entries it stores, the last one first. -/
theorem readPriorityConfigs_find? (priorityDir : List String) (key : String) :
    (readPriorityConfigs disk priorityDir).find? key =
      match disk.readDir priorityDir with
      | .error _ => none
      | .ok entries => (entries.filterMap (readPriorityEntry disk priorityDir)).reverse.lookup key := by
  unfold readPriorityConfigs
  cases disk.readDir priorityDir with
  | error _ => rfl
  | ok entries =>
    dsimp only
    rw [GoMap.foldl_filterMap (readPriorityEntry disk priorityDir), GoMap.find?_foldl_insert,
      GoMap.find?_empty, Option.or_none]
    intro m entry
    cases readPriorityEntry disk priorityDir entry <;> rfl

/-- One turn of the loop stores an entry exactly when it is a `.yaml` file, not a directory,
that reads and parses; the key drops the extension, and the version is read beside it. -/
theorem readPriorityEntry_eq_some {priorityDir : List String} {entry : DirEntry} {key : String}
    {d : PriorityConfigData Pc} :
    readPriorityEntry disk priorityDir entry = some (key, d) ↔
      entry.isDir = false ∧ ext entry.name = ".yaml" ∧ entry.name.dropRight 5 = key ∧
      ∃ pc, (disk.readFile (priorityDir ++ [entry.name]) >>= disk.unmarshalPriority) = .ok pc ∧
        d = ⟨pc, readVersion disk (priorityDir ++ [key ++ ".version.txt"])⟩ := by
  unfold readPriorityEntry
  by_cases h : (entry.isDir || ext entry.name != ".yaml") = true
  · rw [if_pos h]
    simp only [Bool.or_eq_true, bne_iff_ne, ne_eq] at h
    refine ⟨nofun, ?_⟩
    rintro ⟨hd, hy, -⟩
    rcases h with h | h
    · rw [hd] at h; cases h
    · exact absurd hy h
  · rw [if_neg h]
    simp only [Bool.or_eq_true, bne_iff_ne, ne_eq, not_or, not_not, Bool.not_eq_true] at h
    obtain ⟨hd, hy⟩ := h
    split <;> rename_i hr <;> rw [hr]
    · exact ⟨nofun, fun ⟨_, _, _, _, h, _⟩ => nomatch h⟩
    · constructor
      · intro h
        obtain ⟨rfl, rfl⟩ := Prod.mk.inj (Option.some.inj h)
        exact ⟨hd, hy, rfl, _, rfl, rfl⟩
      · rintro ⟨-, -, rfl, pc', h, rfl⟩
        cases h
        rfl

/-- **The priority map holds the last readable entry of each key.** Whatever the directory
holds, `loadConfigFromFile` keeps under a key the config and version of the last entry of
`os.ReadDir` that is not a directory, has the extension `.yaml`, and reads and parses, with
the key its name without `.yaml`; a later entry that fails any of these is skipped. When the
directory cannot be read the map is empty. -/
theorem readPriorityConfigs_find?_eq_some (priorityDir : List String) (key : String)
    (d : PriorityConfigData Pc) :
    (readPriorityConfigs disk priorityDir).find? key = some d ↔
      ∃ entries pre entry post pc, disk.readDir priorityDir = .ok entries ∧
        entries = pre ++ entry :: post ∧
        entry.isDir = false ∧ ext entry.name = ".yaml" ∧ entry.name.dropRight 5 = key ∧
        (disk.readFile (priorityDir ++ [entry.name]) >>= disk.unmarshalPriority) = .ok pc ∧
        d = ⟨pc, readVersion disk (priorityDir ++ [key ++ ".version.txt"])⟩ ∧
        ∀ e ∈ post, ∀ d', readPriorityEntry disk priorityDir e ≠ some (key, d') := by
  rw [readPriorityConfigs_find?]
  cases disk.readDir priorityDir with
  | error _ => simp
  | ok entries =>
    dsimp only
    rw [GoMap.lookup_reverse_filterMap_eq_some]
    constructor
    · rintro ⟨pre, a, post, rfl, ha, hpost⟩
      obtain ⟨hd, hy, hk, pc, hpc, rfl⟩ := (readPriorityEntry_eq_some disk).1 ha
      exact ⟨_, pre, a, post, pc, rfl, rfl, hd, hy, hk, hpc, rfl, hpost⟩
    · rintro ⟨_, pre, a, post, pc, ⟨⟩, rfl, hd, hy, hk, hpc, rfl, hpost⟩
      exact ⟨pre, a, post, rfl, (readPriorityEntry_eq_some disk).2 ⟨hd, hy, hk, pc, hpc, rfl⟩,
        hpost⟩

/-- `loadConfigFromFile` up to its `s.mu.Lock()`: the error it returns, nothing when
`config.yaml` does not exist, or the config it then stores. -/
def loadConfigFromFile (dataDir gateway : String) :
    Except GoError (Option (GatewayConfig Gw Pc)) := do
  match ← decodeFile disk [dataDir, gateway, "config.yaml"] disk.unmarshalGateway with
  | none => return none
  | some cfg =>
    return some ⟨cfg, readVersion disk [dataDir, gateway, "version.txt"],
      readPriorityConfigs disk [dataDir, gateway, "priority"]⟩

/-- `loadFeaturesFromFile` up to its `s.mu.Lock()`: the error it returns, nothing when
`features.json` does not exist, or the features it then stores. -/
def loadFeaturesFromFile (dataDir gateway : String) : Except GoError (Option GatewayFeatures) :=
  decodeFile disk [dataDir, gateway, "features.json"] disk.unmarshalFeatures

theorem decodeFile_of_decodes {α : Type} {path : List String} {decode : String → Except GoError α}
    {data : String} {a : α} (hex : disk.notExist path = false)
    (hread : disk.readFile path = .ok data) (hdec : decode data = .ok a) :
    decodeFile disk path decode = .ok (some a) := by
  simp [decodeFile, hex, hread, hdec, Except.map]

/-- A gateway whose `config.yaml` exists, is read and parses is loaded, with the version and the
priority configs found beside it. -/
theorem loadConfigFromFile_of_parses {dataDir gateway data : String} {gw : Gw}
    (hex : disk.notExist [dataDir, gateway, "config.yaml"] = false)
    (hread : disk.readFile [dataDir, gateway, "config.yaml"] = .ok data)
    (hparse : disk.unmarshalGateway data = .ok gw) :
    loadConfigFromFile disk dataDir gateway =
      .ok (some ⟨gw, readVersion disk [dataDir, gateway, "version.txt"],
        readPriorityConfigs disk [dataDir, gateway, "priority"]⟩) := by
  simp only [loadConfigFromFile, decodeFile_of_decodes disk hex hread hparse]
  rfl

end Files

section Release

variable {Gw Pc : Type} (disk : Disk Gw Pc)

/-- The priority check of `GetGatewayRelease`: whether a reported priority version is missing or
different on the server, or, when none is reported, whether the server has any. -/
def priorityChanged (cfg : GatewayConfig Gw Pc) (lastPriorityVersions : GoMap String) : Bool :=
  if 0 < lastPriorityVersions.size then
    lastPriorityVersions.entries.any fun (key, version) =>
      match cfg.priorityConfigs.find? key with
      | some pc => pc.version != version
      | none => true
  else decide (0 < cfg.priorityConfigs.size)

/-- The items `GetGatewayRelease` lists, in the map's order; one that fails to marshal is
skipped. -/
def priorityConfigItems (pcs : GoMap (PriorityConfigData Pc)) : List PriorityConfigItem :=
  pcs.entries.filterMap fun (key, pc) =>
    match disk.marshalPriority pc.config with
    | .ok pcJSON => some ⟨key, pcJSON, pc.version⟩
    | .error _ => none

/-- What `GetGatewayRelease` answers for the config it found. -/
def releaseResponse (cfg : GatewayConfig Gw Pc) (lastVersion : String)
    (lastPriorityVersions : GoMap String) : Except ControlError LoadResponse :=
  if lastVersion != "" && cfg.version == lastVersion && !priorityChanged cfg lastPriorityVersions
  then .error (.status 304 "config not modified")
  else
    match disk.marshalGateway cfg.config with
    | .error e => .error (.go e)
    | .ok configJSON => .ok ⟨configJSON, cfg.version, priorityConfigItems disk cfg.priorityConfigs⟩

end Release

/-- Where the code a method runs under its read lock stops: at `s.mu.Lock()` in
`loadXFromFile`, with the store it makes there, or at the return. -/
inductive Next (S A : Type) where
  | lock (store : S → S)
  | ret (answer : A)

/-- `GetGatewayRelease` and `GetGatewayFeatures`: the map a call reads, the file part of the
`loadXFromFile` it calls on a miss, the store that function makes under `s.mu.Lock()`, and the
answer for what the map holds. -/
structure ReadMethod (S V A : Type) where
  lookup : S → Option V
  load : S → Except GoError (Option V)
  store : V → S → S
  answer : Option V → A
  fail : GoError → A

namespace ReadMethod

variable {S V A : Type} (m : ReadMethod S V A)

/-- The answer after `loadXFromFile` has returned `nil`: what the map now holds. -/
def reread (s : S) : A := m.answer (m.lookup s)

/-- The code after `s.mu.RLock()`, up to the method's next call on `s.mu`. -/
def enter (s : S) : Next S A :=
  match m.lookup s with
  | some v => .ret (m.answer (some v))
  | none =>
    match m.load s with
    | .error e => .ret (m.fail e)
    | .ok none => .ret (m.reread s)
    | .ok (some v) => .lock (m.store v)

/-- The method with its answers mapped, to run it beside the other one. -/
def map {B : Type} (f : A → B) : ReadMethod S V B :=
  { m with answer := f ∘ m.answer, fail := f ∘ m.fail }

/-- A call asks for the write lock, still holding its read lock, exactly when the gateway is not
cached and the load finds a value to store. -/
theorem enter_eq_lock_iff (s : S) (st : S → S) :
    m.enter s = .lock st ↔ ∃ v, m.lookup s = none ∧ m.load s = .ok (some v) ∧ m.store v = st := by
  unfold enter
  split
  · simp_all
  · split <;> simp_all

theorem enter_of_lookup {s : S} {v : V} (hit : m.lookup s = some v) :
    m.enter s = .ret (m.answer (some v)) := by
  simp only [enter, hit]

theorem enter_of_load {s : S} {v : V} (hmiss : m.lookup s = none)
    (hload : m.load s = .ok (some v)) : m.enter s = .lock (m.store v) :=
  (m.enter_eq_lock_iff s _).2 ⟨v, hmiss, hload, rfl⟩

@[simp] theorem map_enter {B : Type} (f : A → B) (s : S) :
    (m.map f).enter s = match m.enter s with
      | .lock st => .lock st
      | .ret a => .ret (f a) := by
  simp only [enter, map, reread, Function.comp]
  split
  · rfl
  · split <;> rfl

end ReadMethod

section Methods

variable {Gw Pc : Type} (disk : Disk Gw Pc)

/-- `ControlService.GetGatewayRelease`; its `ctx` and `ipAddr` are not read. -/
def getGatewayRelease (gateway lastVersion : String) (lastPriorityVersions : GoMap String) :
    ReadMethod (ControlService Gw Pc) (GatewayConfig Gw Pc) (Except ControlError LoadResponse) where
  lookup s := s.configs.find? gateway
  load s := loadConfigFromFile disk s.dataDir gateway
  store cfg s := { s with configs := s.configs.insert gateway cfg }
  answer
    | none => .error (.status 404 "gateway config not found")
    | some cfg => releaseResponse disk cfg lastVersion lastPriorityVersions
  fail e := .error (.go e)

/-- `ControlService.GetGatewayFeatures`; its `ctx` and `ipAddr` are not read. -/
def getGatewayFeatures (gateway : String) :
    ReadMethod (ControlService Gw Pc) GatewayFeatures (Except ControlError LoadFeatureResponse) where
  lookup s := s.features.find? gateway
  load s := loadFeaturesFromFile disk s.dataDir gateway
  store f s := { s with features := s.features.insert gateway f }
  answer
    | none => .ok ⟨gateway, GoMap.empty⟩
    | some f => .ok ⟨gateway, f.features⟩
  fail e := .error (.go e)

end Methods

end Goddess.Control
