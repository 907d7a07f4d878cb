import Lookout.Proofs.Address
import Lookout.Proofs.Discovery.Following

/-!
# Keys in a snapshot

The key of an endpoint stands for its protocol and its address and for nothing else. A build keeps
every record that the policy lets through, also several that come to one protocol and one address,
so a key can occur more than once. Whoever follows the snapshots knows one endpoint for every key.
-/
set_option autoImplicit false

namespace Lookout

/-- The protocol and the address under which the instance can be reached, if there is one. -/
def Record.place? (r : Record) : Option (String × String) :=
  (Address.normalize? r.host r.port).map (r.protocol, ·)

namespace Endpoint

def place (e : Endpoint) : String × String := (e.protocol, e.address)

def keyOf (place : String × String) : String := place.1 ++ "://" ++ place.2

/-- A key tells the place, if the address is in the normal spelling. -/
theorem keyOf_inj {x y : String × String} (hx : ¬[':', '/'] <:+: x.2.toList)
    (hy : ¬[':', '/'] <:+: y.2.toList) (h : keyOf x = keyOf y) : x = y := by
  have hchars := congrArg String.toList h
  simp only [keyOf, String.toList_append, List.append_assoc] at hchars
  obtain ⟨hprotocol, haddress⟩ := Address.mark_inj hx hy hchars
  exact Prod.ext (String.toList_inj.1 hprotocol) (String.toList_inj.1 haddress)

theorem not_infix_of_create? {name protocol host : String} {port : UInt16} {attributes : Dict Json}
    {e : Endpoint} (h : create? name protocol host port attributes = some e) :
    ¬[':', '/'] <:+: e.address.toList := by
  obtain ⟨address, haddress, rfl⟩ := Option.map_eq_some_iff.1 h
  obtain ⟨cs, hcs, rfl⟩ := Option.map_eq_some_iff.1 haddress
  rw [String.toList_ofList]
  exact Address.not_infix_of_normalizeChars? hcs

/-- The key of an endpoint stands for its protocol, whatever that is, and its address: for what it
was made of, the spelling of the host aside. -/
theorem key_eq_iff {name name' protocol protocol' host host' : String} {port port' : UInt16}
    {attributes attributes' : Dict Json} {e e' : Endpoint}
    (h : create? name protocol host port attributes = some e)
    (h' : create? name' protocol' host' port' attributes' = some e') :
    (e.key = e'.key ↔ e.protocol = e'.protocol ∧ e.address = e'.address) ∧
    (e.key = e'.key ↔
      protocol = protocol' ∧ Address.normalize? host port = Address.normalize? host' port') := by
  have hkey : e.key = e'.key ↔ e.protocol = e'.protocol ∧ e.address = e'.address := by
    constructor
    · intro heq
      exact Prod.mk.inj
        (keyOf_inj (x := e.place) (not_infix_of_create? h) (not_infix_of_create? h') heq)
    · rintro ⟨hprotocol, haddress⟩
      rw [key, key, hprotocol, haddress]
  refine ⟨hkey, ?_⟩
  rw [hkey]
  obtain ⟨address, haddress, rfl⟩ := Option.map_eq_some_iff.1 h
  obtain ⟨address', haddress', rfl⟩ := Option.map_eq_some_iff.1 h'
  rw [haddress, haddress', Option.some.injEq]

/-- A protocol with the mark in it, and one host in two spellings. -/
theorem key_eq_of_spellings :
    ∃ e e', create? "a" "tls://grpc" "::1" 80 ∅ = some e ∧
      create? "" "tls://grpc" "[0:0::0001]" 80 ∅ = some e' ∧ e.name ≠ e'.name ∧ e.key = e'.key := by
  have hplain : create? "a" "tls://grpc" "::1" 80 ∅ =
      some ⟨"a", "tls://grpc", "[::1]:80", ∅⟩ := rfl
  have hspelt : create? "" "tls://grpc" "[0:0::0001]" 80 ∅ =
      some ⟨"[::1]:80", "tls://grpc", "[::1]:80", ∅⟩ := rfl
  exact ⟨_, _, hplain, hspelt, by decide, (key_eq_iff hplain hspelt).2.2 ⟨rfl, by decide⟩⟩

end Endpoint

theorem Policy.map_place_filter (p : Policy) (r : Record) :
    (p.filter r).map Endpoint.place = if p.wants r then r.place? else none := by
  unfold Policy.filter
  split
  · simp [Endpoint.create?, Record.place?, Endpoint.place, Function.comp_def]
  · rfl

namespace Snapshot

/-- Where the records that the policy wants can be reached, with an entry for every record. -/
def places (policy : Policy) (records : List Record) : List (String × String) :=
  (records.filter policy.wants).filterMap Record.place?

section
variable (policy : Policy) (records : List Record)

theorem map_place_filterMap :
    (records.filterMap policy.filter).map Endpoint.place = places policy records := by
  rw [List.map_filterMap, places, List.filterMap_filter]
  exact List.filterMap_congr fun r _ => policy.map_place_filter r

theorem perm_map_place : ((endpointsOf policy records).map Endpoint.place).Perm
    (places policy records) := by
  rw [← map_place_filterMap]
  exact (List.mergeSort_perm _ _).map _

theorem perm_map_key : ((endpointsOf policy records).map Endpoint.key).Perm
    ((places policy records).map Endpoint.keyOf) := by
  have hperm := (perm_map_place policy records).map Endpoint.keyOf
  rw [List.map_map] at hperm
  exact hperm

theorem length_endpointsOf :
    (endpointsOf policy records).length = (places policy records).length := by
  have hlength := (perm_map_place policy records).length_eq
  rwa [List.length_map] at hlength

variable {policy records}

theorem not_infix_of_mem_places {x : String × String} (h : x ∈ places policy records) :
    ¬[':', '/'] <:+: x.2.toList := by
  obtain ⟨r, -, hr⟩ := List.mem_filterMap.1 h
  obtain ⟨address, haddress, rfl⟩ := Option.map_eq_some_iff.1 hr
  obtain ⟨cs, hcs, rfl⟩ := Option.map_eq_some_iff.1 haddress
  rw [String.toList_ofList]
  exact Address.not_infix_of_normalizeChars? hcs

theorem keyOf_injOn : ∀ x ∈ places policy records, ∀ y ∈ places policy records,
    Endpoint.keyOf x = Endpoint.keyOf y → x = y :=
  fun _ hx _ hy => Endpoint.keyOf_inj (not_infix_of_mem_places hx) (not_infix_of_mem_places hy)

theorem nodup_map_key_iff :
    ((endpointsOf policy records).map Endpoint.key).Nodup ↔ (places policy records).Nodup := by
  rw [(perm_map_key policy records).nodup_iff]
  exact ⟨List.Nodup.of_map _, fun h => h.map_on keyOf_injOn⟩

theorem length_dedup_map_key : ((endpointsOf policy records).map Endpoint.key).dedup.length =
    (places policy records).dedup.length := by
  have hnodup : ((places policy records).dedup.map Endpoint.keyOf).Nodup :=
    (List.nodup_dedup _).map_on fun x hx y hy =>
      keyOf_injOn x (List.mem_dedup.1 hx) y (List.mem_dedup.1 hy)
  have hperm : ((places policy records).map Endpoint.keyOf).dedup.Perm
      ((places policy records).dedup.map Endpoint.keyOf) := by
    refine (List.perm_ext_iff_of_nodup (List.nodup_dedup _) hnodup).2 ?_
    intro key
    simp
  rw [(perm_map_key policy records).dedup.length_eq, hperm.length_eq, List.length_map]

theorem nodup_keys_iff (label : Label) (service : String) (revision : UInt64) :
    (build label service policy revision records).keys.Nodup ↔ (places policy records).Nodup :=
  (List.mergeSort_perm _ _).nodup_iff.trans nodup_map_key_iff

end

/-- A build keeps every record that has a place. So no key occurs twice exactly if no two records
have one place, and exactly then whoever has consumed the snapshot knows as many endpoints as it
holds; known is one endpoint for every place. -/
theorem keys_nodup_iff (label : Label) (service : String) (policy : Policy) (revision : UInt64)
    (records : List Record) :
    let s := build label service policy revision records
    s.endpoints.length = (places policy records).length ∧
    (s.keys.Nodup ↔ (places policy records).Nodup) ∧
    ∀ events, (Discovery.Scene.start.run events).answer.change? = none →
      Discovery.lastPublished? events = some s →
      let known := (Discovery.Scene.start.run (events ++ [.poll])).discovery.known
      known.size = (places policy records).dedup.length ∧
      (known.size = s.endpoints.length ↔ (places policy records).Nodup) := by
  intro s
  have hlength : s.endpoints.length = (places policy records).length := length_endpointsOf _ _
  refine ⟨hlength, nodup_keys_iff label service revision, ?_⟩
  intro events hrest hlast known
  have hsize : known.size = (places policy records).dedup.length := by
    rw [(Discovery.reflects_at_rest hrest).size_known, hlast]
    exact length_dedup_map_key
  refine ⟨hsize, ?_⟩
  rw [hsize, hlength, ← List.dedup_eq_self]
  exact ⟨(List.dedup_sublist _).eq_of_length, congrArg List.length⟩

/-! Two instances of a service, on one port of two hosts. -/

def listed (host instanceId : String) : Record :=
  ⟨"user", "n", "grpc", host, 9000, instanceId, ∅⟩

def pair (host host' : String) : Snapshot :=
  build ⟨"memory", "", ""⟩ "user" (.create "n" "user" ["grpc"]) 1
    [listed host "a", listed host' "b"]

theorem endpoints_pair (host host' : String) {a b : Endpoint}
    (hfilter : [listed host "a", listed host' "b"].filterMap
      (Policy.create "n" "user" ["grpc"]).filter = [a, b]) (horder : a.precedes b = true) :
    (pair host host').endpoints = [a, b] := by
  change List.mergeSort _ _ = _
  rw [hfilter]
  exact List.mergeSort_of_pairwise (by simpa using horder)

def near : Endpoint := ⟨"a", "grpc", "10.0.0.1:9000", ∅⟩
def far : Endpoint := ⟨"b", "grpc", "10.0.0.2:9000", ∅⟩

/-- Each in a place of its own. -/
theorem keys_nodup_of_two_places :
    (Discovery.Scene.start.run
      [.publish (pair "10.0.0.1" "10.0.0.2"), .poll, .poll]).answer.change? = none ∧
    Discovery.lastPublished? [.publish (pair "10.0.0.1" "10.0.0.2"), .poll, .poll] =
      some (pair "10.0.0.1" "10.0.0.2") ∧
    (pair "10.0.0.1" "10.0.0.2").keys.Nodup ∧
    (Discovery.Scene.start.run ([.publish (pair "10.0.0.1" "10.0.0.2"), .poll, .poll] ++
      [.poll])).discovery.known.size = 2 := by
  have hplaces : places (.create "n" "user" ["grpc"])
      [listed "10.0.0.1" "a", listed "10.0.0.2" "b"] =
        [("grpc", "10.0.0.1:9000"), ("grpc", "10.0.0.2:9000")] := by decide +kernel
  have hendpoints : (pair "10.0.0.1" "10.0.0.2").endpoints = [near, far] :=
    endpoints_pair _ _ rfl rfl
  have hpair : pair "10.0.0.1" "10.0.0.2" =
      ⟨[near, far], 1, (pair "10.0.0.1" "10.0.0.2").origin⟩ := by
    rw [← hendpoints]
    rfl
  have hrest : (Discovery.Scene.start.run
      [.publish (pair "10.0.0.1" "10.0.0.2"), .poll, .poll]).answer.change? = none := by
    rw [hpair]
    decide +kernel
  obtain ⟨-, hkeys, hfollow⟩ := keys_nodup_iff ⟨"memory", "", ""⟩ "user"
    (.create "n" "user" ["grpc"]) 1 [listed "10.0.0.1" "a", listed "10.0.0.2" "b"]
  obtain ⟨hsize, -⟩ := hfollow _ hrest rfl
  rw [hplaces] at hkeys hsize
  exact ⟨hrest, rfl, hkeys.2 (by decide), hsize⟩

/-- Both in one place, which one of them spells differently: the key occurs twice, and one endpoint
is known where two are held. -/
theorem key_twice :
    ¬(pair "node" " Node. ").keys.Nodup ∧ (pair "node" " Node. ").endpoints.length = 2 ∧
    (Discovery.byKey (pair "node" " Node. ")).size = 1 := by
  have hplaces : places (.create "n" "user" ["grpc"]) [listed "node" "a", listed " Node. " "b"] =
      [("grpc", "node:9000"), ("grpc", "node:9000")] := by decide +kernel
  have hendpoints : (pair "node" " Node. ").endpoints =
      [⟨"a", "grpc", "node:9000", ∅⟩, ⟨"b", "grpc", "node:9000", ∅⟩] := endpoints_pair _ _ rfl rfl
  refine ⟨?_, ?_, ?_⟩
  · rw [pair, nodup_keys_iff, hplaces]
    decide
  · rw [hendpoints]
    rfl
  · rw [Discovery.byKey, hendpoints]
    decide +kernel

end Snapshot

end Lookout
