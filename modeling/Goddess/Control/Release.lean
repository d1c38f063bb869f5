import Goddess.Control.Lock

/-!
# When `GetGatewayRelease` answers "not modified"

A gateway polls `/v1/control/gateway/release` with the version it runs (`last_version`) and,
when it sends `supportPriorityConfig=1`, one `lastPriorityVersions=key=version` value per
priority config it holds. The handler gathers these into a map (`lastPriorityVersions`), and
`GetGatewayRelease` answers `304 config not modified` when the version is the stored one and
its priority check finds nothing changed.

`releaseResponse_eq_notModified_iff` says exactly when that is: every reported priority
version is the stored one (`ReportsCurrent`), and the server holds no priority config when none
is reported. The check runs over the reported keys only. A gateway that reports the whole
stored key-to-version map (`SameVersions`) is told it is up to date, but so is one that reports
part of it, so a priority config added on the server is not sent to a gateway that already
reports others. `lastPriorityVersions_find?` says the handler hands on whatever map the gateway
sends in the documented `key=version` form.
-/

namespace Goddess.Control

section Handler

/-- Go's `strings.SplitN(v, "=", 2)` when it gives two parts: the text before the first `=`,
and the rest. -/
def splitVersion : List Char → Option (List Char × List Char)
  | [] => none
  | c :: cs => if c = '=' then some ([], cs) else (splitVersion cs).map fun p => (c :: p.1, p.2)

/-- One `lastPriorityVersions` value entered in the map; a value without `=` is skipped. -/
def addPriorityVersion (m : GoMap String) (v : String) : GoMap String :=
  match splitVersion v.toList with
  | some (key, version) => m.insert ⟨key⟩ ⟨version⟩
  | none => m

/-- The `lastPriorityVersions` map the release handler passes to `GetGatewayRelease`, from the
request's query; a later value for a key replaces an earlier one. -/
def lastPriorityVersions (query : Values) : GoMap String :=
  if query.get "supportPriorityConfig" == "1" then
    (query.getAll "lastPriorityVersions").foldl addPriorityVersion GoMap.empty
  else GoMap.empty

/-- The release handler's call for a `GET` request (it answers any other method with `405`):
`GetGatewayRelease` for the query's `gateway`, `last_version` and priority versions. -/
def releaseRequest {Gw Pc : Type} (disk : Disk Gw Pc) (query : Values) :
    ReadMethod (ControlService Gw Pc) (GatewayConfig Gw Pc) (Except ControlError LoadResponse) :=
  getGatewayRelease disk (query.get "gateway") (query.get "last_version")
    (lastPriorityVersions query)

/-- The `lastPriorityVersions` values a gateway sends for a map, in the `key=version` form the
release documentation gives. -/
def priorityVersionValues (versions : GoMap String) : List String :=
  versions.entries.map fun e => e.1 ++ "=" ++ e.2

theorem splitVersion_append {key : List Char} (h : '=' ∉ key) (version : List Char) :
    splitVersion (key ++ '=' :: version) = some (key, version) := by
  induction key with
  | nil => rfl
  | cons c cs ih =>
    rw [List.mem_cons, not_or] at h
    show splitVersion (c :: (cs ++ '=' :: version)) = _
    rw [splitVersion, if_neg (Ne.symm h.1), ih h.2]
    rfl

theorem addPriorityVersion_value (m : GoMap String) {key : String} (h : '=' ∉ key.toList)
    (version : String) : addPriorityVersion m (key ++ "=" ++ version) = m.insert key version := by
  have hchars : (key ++ "=" ++ version).toList = key.toList ++ '=' :: version.toList :=
    List.append_assoc key.toList ['='] version.toList
  rw [addPriorityVersion, hchars, splitVersion_append h]
  rfl

theorem foldl_addPriorityVersion {l : List (String × String)} (hnd : (l.map Prod.fst).Nodup)
    (hkeys : ∀ e ∈ l, '=' ∉ e.1.toList) (m : GoMap String) (k : String) :
    ((l.map fun e => e.1 ++ "=" ++ e.2).foldl addPriorityVersion m).find? k =
      (l.lookup k).or (m.find? k) := by
  induction l generalizing m with
  | nil => rfl
  | cons e l ih =>
    obtain ⟨a, b⟩ := e
    rw [List.map_cons, List.nodup_cons] at hnd
    rw [List.map_cons, List.foldl_cons, addPriorityVersion_value m (hkeys _ (.head _)),
      ih hnd.2 (fun e he => hkeys e (.tail _ he)), GoMap.find?_insert, List.lookup_cons]
    by_cases hk : k = a
    · subst hk
      have hnone : l.lookup k = none := List.lookup_eq_none_iff.2 fun p hp =>
        bne_iff_ne.2 fun h => hnd.1 (List.mem_map.2 ⟨p, hp, h.symm⟩)
      rw [beq_self_eq_true, if_pos rfl, hnone]
      rfl
    · rw [beq_false_of_ne hk, if_neg hk]

/-- **The handler hands on the reported map.** A query that enables priority configs and
carries a map's `key=version` values, no key holding `=`, gives that map. -/
theorem lastPriorityVersions_find? {query : Values} {versions : GoMap String}
    (hsupport : query.get "supportPriorityConfig" = "1")
    (hvalues : query.getAll "lastPriorityVersions" = priorityVersionValues versions)
    (hkeys : ∀ e ∈ versions.entries, '=' ∉ e.1.toList) (key : String) :
    (lastPriorityVersions query).find? key = versions.find? key := by
  rw [lastPriorityVersions, hsupport, if_pos (beq_self_eq_true _), hvalues, priorityVersionValues,
    foldl_addPriorityVersion versions.nodup hkeys, GoMap.find?_empty, Option.or_none]
  rfl

/-- A gateway holding priority configs `a` at `v1` and `b` at `v2`. -/
def twoPriorityVersions : GoMap String := (GoMap.empty.insert "a" "v1").insert "b" "v2"

theorem lastPriorityVersions_find?_twoPriorityVersions :
    (lastPriorityVersions [("supportPriorityConfig", ["1"]),
        ("lastPriorityVersions", priorityVersionValues twoPriorityVersions)]).find? "b" =
      twoPriorityVersions.find? "b" :=
  @lastPriorityVersions_find? [("supportPriorityConfig", ["1"]),
    ("lastPriorityVersions", priorityVersionValues twoPriorityVersions)] twoPriorityVersions
    rfl rfl (by decide) "b"

end Handler

section Release

variable {Gw Pc : Type}

/-- The version the stored config holds for a priority key. -/
def priorityVersion (cfg : GatewayConfig Gw Pc) (key : String) : Option String :=
  (cfg.priorityConfigs.find? key).map PriorityConfigData.version

/-- Every reported priority version is the one the server holds for that key. -/
def ReportsCurrent (cfg : GatewayConfig Gw Pc) (lastPriorityVersions : GoMap String) : Prop :=
  ∀ e ∈ lastPriorityVersions.entries, priorityVersion cfg e.1 = some e.2

instance (cfg : GatewayConfig Gw Pc) (lastPriorityVersions : GoMap String) :
    Decidable (ReportsCurrent cfg lastPriorityVersions) :=
  inferInstanceAs (Decidable (∀ e ∈ lastPriorityVersions.entries, _))

/-- The up-to-date condition of the release documentation, which is not a function of the code:
the reported map is the stored one, with the same keys, each at the same version. -/
def SameVersions (cfg : GatewayConfig Gw Pc) (lastPriorityVersions : GoMap String) : Prop :=
  ∀ key, priorityVersion cfg key = lastPriorityVersions.find? key

theorem priorityChanged_eq_false_iff (cfg : GatewayConfig Gw Pc) (L : GoMap String) :
    priorityChanged cfg L = false ↔
      ReportsCurrent cfg L ∧ (L.size = 0 → cfg.priorityConfigs.size = 0) := by
  unfold priorityChanged ReportsCurrent
  split_ifs with h
  · rw [and_iff_left fun h0 => absurd h0 (Nat.pos_iff_ne_zero.1 h), List.any_eq_false]
    refine forall_congr' fun ⟨key, version⟩ => imp_congr_right fun _ => ?_
    simp only [priorityVersion]
    split <;> simp_all
  · have hL : L.entries = [] := List.length_eq_zero.1 (Nat.eq_zero_of_not_pos h)
    simp [hL, GoMap.size]

/-- **When the release answer is "not modified".** `GetGatewayRelease` answers `304` for a
config it holds exactly when the reported version is set and is the stored one, every reported
priority version is current, and the server holds no priority config when none is reported. -/
theorem releaseResponse_eq_notModified_iff (disk : Disk Gw Pc) (cfg : GatewayConfig Gw Pc)
    (lastVersion : String) (L : GoMap String) :
    releaseResponse disk cfg lastVersion L = .error (.status 304 "config not modified") ↔
      lastVersion ≠ "" ∧ cfg.version = lastVersion ∧ ReportsCurrent cfg L ∧
        (L.size = 0 → cfg.priorityConfigs.size = 0) := by
  rw [← priorityChanged_eq_false_iff, releaseResponse]
  split_ifs with h
  · simp_all
  · simp only [Bool.and_eq_true, bne_iff_ne, ne_eq, beq_iff_eq, Bool.not_eq_true'] at h
    refine iff_of_false ?_ fun h' => h ⟨⟨h'.1, h'.2.1⟩, h'.2.2⟩
    split <;> nofun

/-- **A gateway that reports current priority versions is told it is up to date.** Whatever
priority configs the server holds beyond the reported keys, a cached gateway that reports its
stored version and at least one current priority version gets `304`. -/
theorem getGatewayRelease_notModified_of_reportsCurrent (disk : Disk Gw Pc)
    (s : ControlService Gw Pc) {gateway lastVersion : String} {L : GoMap String}
    {cfg : GatewayConfig Gw Pc} (hcached : s.configs.find? gateway = some cfg)
    (hv : lastVersion ≠ "") (hver : cfg.version = lastVersion) (hne : 0 < L.size)
    (hcur : ReportsCurrent cfg L) :
    (getGatewayRelease disk gateway lastVersion L).enter s =
      .ret (.error (.status 304 "config not modified")) :=
  (ReadMethod.enter_of_lookup _ hcached).trans <| congrArg Next.ret <|
    (releaseResponse_eq_notModified_iff disk cfg lastVersion L).2
      ⟨hv, hver, hcur, fun h0 => absurd h0 (Nat.pos_iff_ne_zero.1 hne)⟩

/-- The `demo` gateway at `v2`, holding priority configs `a` and `b`, both at `v1`. -/
def twoPriorityRelease : GatewayConfig String String :=
  ⟨"name: demo", "v2", (GoMap.empty.insert "a" ⟨"a", "v1"⟩).insert "b" ⟨"b", "v1"⟩⟩

/-- The request of a gateway at `v2` that holds priority config `a` only. -/
def onePriorityQuery : Values :=
  [("gateway", ["demo"]), ("last_version", ["v2"]), ("supportPriorityConfig", ["1"]),
    ("lastPriorityVersions", ["a=v1"])]

theorem getGatewayRelease_notModified_of_reportsCurrent_unreported :
    ¬ SameVersions twoPriorityRelease (lastPriorityVersions onePriorityQuery) ∧
    (releaseRequest demoDisk onePriorityQuery).enter
        ⟨"data", GoMap.empty.insert "demo" twoPriorityRelease, .empty⟩ =
      .ret (.error (.status 304 "config not modified")) :=
  ⟨fun h => absurd (h "b") (by decide),
    getGatewayRelease_notModified_of_reportsCurrent demoDisk _ (GoMap.find?_insert_self _ _ _)
      (by decide) rfl (by decide) (by decide)⟩

end Release

end Goddess.Control
