import Lookout.Consul
import Lookout.Proofs.Address
import Lookout.Proofs.Json
import Mathlib.Data.List.Forall2

/-!
# What health entries say

An entry gives a record exactly if it has an address and a port. The labels of its instance come
from the metadata and from the tags, and two of them decide the namespace and the protocol. A tag
without a value is a label of its own, which is `true`. So a tag that is no more than the word
`namespace` or `protocol` decides it as well, unless the metadata or a later tag says otherwise.
-/
set_option autoImplicit false

namespace Lookout.Consul

/-! ## Tags -/

def assignment? (tag : String) : Option (String × String) :=
  (Address.splitFirst? '=' tag.toList).map fun r => (String.ofList r.1, String.ofList r.2)

/-- The value that a tag `key=value` gives to this key. -/
def assigned? (key tag : String) : Option String :=
  (assignment? tag).bind fun (k, value) => if k = key then some value else none

/-- What a tag says about a key, be it a tag `key=value` or the key on its own. -/
def said? (key tag : String) : Option String :=
  if tag = key ∧ '=' ∉ key.toList then some "true" else assigned? key tag

theorem assignment?_eq_some_iff {tag key value : String} :
    assignment? tag = some (key, value) ↔ '=' ∉ key.toList ∧ tag = key ++ "=" ++ value := by
  have htext : tag = key ++ "=" ++ value ↔ tag.toList = key.toList ++ '=' :: value.toList := by
    rw [← String.toList_inj]
    simp
  rw [htext, ← Address.splitFirst?_eq_some_iff, assignment?, Option.map_eq_some_iff]
  constructor
  · rintro ⟨⟨front, back⟩, hsplit, hlabel⟩
    obtain ⟨rfl, rfl⟩ := Prod.mk.inj hlabel
    simpa using hsplit
  · intro hsplit
    exact ⟨_, hsplit, by simp⟩

theorem assigned?_eq_some_iff {key tag value : String} :
    assigned? key tag = some value ↔ '=' ∉ key.toList ∧ tag = key ++ "=" ++ value := by
  rw [← assignment?_eq_some_iff, assigned?, Option.bind_eq_some_iff]
  constructor
  · rintro ⟨⟨k, v⟩, hlabel, hkey⟩
    obtain ⟨rfl, ⟨⟩⟩ := Option.ite_none_right_eq_some.1 hkey
    exact hlabel
  · intro hlabel
    exact ⟨_, hlabel, if_pos rfl⟩

theorem assignment?_eq_none_iff {tag : String} : assignment? tag = none ↔ '=' ∉ tag.toList := by
  rw [assignment?, Option.map_eq_none_iff, Address.splitFirst?_eq_none_iff]

theorem labelOfTag_eq (tag : String) : labelOfTag tag = (assignment? tag).getD (tag, "true") := by
  have htest : (fun c : Char => decide (c ≠ '=')) = (· != '=') := by
    funext c
    simp [bne, beq_eq_decide]
  unfold labelOfTag assignment? Address.splitFirst?
  simp only [htest]
  cases tag.toList.dropWhile (· != '=') <;> rfl

theorem said?_eq (key tag : String) :
    said? key tag = if (labelOfTag tag).1 = key then some (labelOfTag tag).2 else none := by
  rw [labelOfTag_eq, said?, assigned?]
  cases hlabel : assignment? tag with
  | none =>
    have hbare := assignment?_eq_none_iff.1 hlabel
    by_cases heq : tag = key
    · subst heq
      simp [hbare]
    · simp [heq]
  | some label =>
    obtain ⟨k, value⟩ := label
    obtain ⟨-, rfl⟩ := assignment?_eq_some_iff.1 hlabel
    have hnot : ¬(k ++ "=" ++ value = key ∧ '=' ∉ key.toList) := by
      rintro ⟨rfl, hkey⟩
      simp at hkey
    rw [if_neg hnot]
    rfl

theorem map_filter_labelOfTag (key : String) (tags : List String) :
    ((tags.map labelOfTag).filter (·.1 == key)).map Prod.snd = tags.filterMap (said? key) := by
  induction tags with
  | nil => rfl
  | cons tag rest ih =>
    by_cases heq : (labelOfTag tag).1 = key
    · simp [said?_eq, heq, ih]
    · simp [said?_eq, heq, ih]

/-! ## Labels -/

def tagsIn (entry : Json) : List String :=
  (((entry.at? ["Service", "Tags"]).bind Json.items?).getD []).filterMap Json.text?

/-- The label of that key: what the metadata has under it, or else what the last tag that says
anything about it says. -/
def labelOf? (entry : Json) (key : String) : Option String :=
  (entry.textAt? ["Service", "Meta", key]).or ((tagsIn entry).filterMap (said? key)).getLast?

def declared? (entry : Json) (key : String) : Option String :=
  (entry.textAt? ["Service", "Meta", key]).or ((tagsIn entry).filterMap (assigned? key)).getLast?

/-- The last tag that says anything about a key. -/
def lastTag? (entry : Json) (key : String) : Option String :=
  ((tagsIn entry).filter fun tag => (said? key tag).isSome).getLast?

theorem at?_cons (j : Json) (key : String) (path : List String) :
    j.at? (key :: path) = (j.get? key).bind (·.at? path) := rfl

theorem map_filter_metadata (members : List (String × Json)) (key : String) :
    ((members.filterMap fun e => e.2.text?.map fun value => (e.1, value)).filter
        (·.1 == key)).map Prod.snd =
      (members.filter (·.1 == key)).filterMap fun e => e.2.text? := by
  induction members with
  | nil => rfl
  | cons head rest ih =>
    obtain ⟨k, value⟩ := head
    cases htext : value.text? with
    | none => by_cases heq : k = key <;> simp [htext, heq, ih]
    | some text => by_cases heq : k = key <;> simp [htext, heq, ih]

theorem getLast?_metadata {instance_ : Json} (h : instance_.Tidy) (key : String) :
    (((metadataOf instance_).filter (·.1 == key)).map Prod.snd).getLast? =
      instance_.textAt? ["Meta", key] := by
  unfold metadataOf
  rw [map_filter_metadata]
  cases hmeta : instance_.get? "Meta" with
  | none => simp [Json.textAt?, Json.at?, hmeta]
  | some metadata =>
    cases metadata with
    | obj members =>
      have hsorted : Entries.Sorted members := (h.get? hmeta).1
      simp only [Option.bind_some, Json.members?, Option.getD_some]
      rw [Json.members_filter_key hsorted]
      cases hfound : (Json.obj members).get? key with
      | none => simp [Json.textAt?, Json.at?, hmeta, hfound]
      | some value =>
        cases htext : value.text? <;> simp [Json.textAt?, Json.at?, hmeta, hfound, htext]
    | _ =>
      simp only [Json.textAt?, Json.at?, hmeta]
      rfl

theorem find?_labelsOf {entry instance_ : Json} (h : entry.Tidy)
    (hinstance : entry.get? "Service" = some instance_) (key : String) :
    (labelsOf instance_).find? key = labelOf? entry key := by
  have hmeta : entry.textAt? ["Service", "Meta", key] = instance_.textAt? ["Meta", key] := by
    simp [Json.textAt?, Json.at?, hinstance]
  have htags : tagsIn entry = tagsOf instance_ := by
    simp [tagsIn, tagsOf, Json.at?, hinstance]
  rw [labelOf?, hmeta, htags, ← map_filter_labelOfTag, ← getLast?_metadata (h.get? hinstance),
    labelsOf, Dict.find?_ofList, ← List.getLast?_map, List.filter_append, List.map_append,
    List.getLast?_append]

/-- A key on its own counts as `true` where it is the last tag about that key and the metadata has
nothing under it. Everywhere else tags `key=value` decide. -/
theorem labelOf?_eq (entry : Json) (key : String) :
    labelOf? entry key =
      if entry.textAt? ["Service", "Meta", key] = none ∧ lastTag? entry key = some key then
        some "true"
      else declared? entry key := by
  unfold labelOf? declared? lastTag?
  cases entry.textAt? ["Service", "Meta", key] with
  | some value => simp
  | none =>
    simp only [Option.none_or, true_and]
    induction tagsIn entry using List.reverseRecOn with
    | nil => simp
    | append_singleton tags tag ih =>
      rw [List.filterMap_append, List.filterMap_append, List.filter_append]
      by_cases hbare : tag = key ∧ '=' ∉ key.toList
      · obtain ⟨rfl, hkey⟩ := hbare
        have hsaid : said? tag tag = some "true" := if_pos ⟨rfl, hkey⟩
        simp [hsaid]
      · have hsaid : said? key tag = assigned? key tag := if_neg hbare
        cases hassigned : assigned? key tag with
        | none => simpa [hsaid, hassigned] using ih
        | some value =>
          have hother : tag ≠ key := by
            intro heq
            exact hbare ⟨heq, (assigned?_eq_some_iff.1 hassigned).1⟩
          simp [hsaid, hassigned, hother]

/-! ## Records -/

/-- The host of an entry: the address of the instance, or that of the node if it has none. -/
def HostOf (entry : Json) (host : String) : Prop :=
  (entry.textAt? ["Service", "Address"] = some host ∧ host ≠ "") ∨
    ((entry.textAt? ["Service", "Address"]).getD "" = "" ∧
      entry.textAt? ["Node", "Address"] = some host)

def Complete (entry : Json) : Prop :=
  (∃ host, HostOf entry host) ∧
    ∃ n : Nat, n ≤ 65535 ∧ entry.at? ["Service", "Port"] = some (.int n)

def metadataAt? (entry : Json) (key : String) : Option String :=
  if key = "namespace" ∨ key = "protocol" then none
  else if key = "node" then (entry.textAt? ["Node", "Node"]).or (labelOf? entry key)
  else labelOf? entry key

/-- The record says what the entry says. -/
structure Describes (defaults : Defaults) (service : String) (entry : Json) (r : Record) :
    Prop where
  service : r.service = (entry.textAt? ["Service", "Service"]).getD service
  instanceId : r.instanceId = (entry.textAt? ["Service", "ID"]).getD ""
  host : HostOf entry r.host
  port : entry.at? ["Service", "Port"] = some (.int r.port.toNat)
  realm : r.realm = (labelOf? entry "namespace").getD defaults.realm
  protocol : r.protocol = (labelOf? entry "protocol").getD defaults.protocol
  metadata : ∀ key, r.metadata.find? key = metadataAt? entry key

section
variable {defaults : Defaults} {service : String} {entry instance_ : Json}

theorem textAt?_pair (j : Json) (key inner : String) :
    j.textAt? [key, inner] = (j.get? key).bind (textOf? · inner) := by
  simp [Json.textAt?, Json.at?, textOf?, Option.bind_assoc]

theorem textOf?_instance (hinstance : entry.get? "Service" = some instance_) (key : String) :
    textOf? instance_ key = entry.textAt? ["Service", key] := by
  rw [textAt?_pair, hinstance]
  rfl

theorem addressOf?_eq_some_iff (hinstance : entry.get? "Service" = some instance_)
    {host : String} : addressOf? entry instance_ = some host ↔ HostOf entry host := by
  rw [addressOf?, textOf?_instance hinstance, ← textAt?_pair, HostOf]
  cases entry.textAt? ["Service", "Address"] with
  | none => simp
  | some own =>
    by_cases hempty : own = ""
    · subst hempty
      simp
    · have hkept : (some own).filter (fun a => !a.isEmpty) = some own := by simp [hempty]
      rw [hkept]
      simp only [Option.some_or, Option.some.injEq, Option.getD_some, hempty, false_and, or_false]
      constructor
      · rintro rfl
        exact ⟨rfl, hempty⟩
      · rintro ⟨heq, -⟩
        exact heq

theorem port_eq_some_iff {n : Int} {port : UInt16} :
    ((Json.int n).natural?.filter (· ≤ 65535)).map UInt16.ofNat = some port ↔ n = port.toNat := by
  have hlt : port.toNat < 65536 := port.toNat_lt
  simp only [Option.map_eq_some_iff, Option.filter_eq_some_iff, Json.natural?,
    Option.ite_none_right_eq_some, Option.some.injEq, decide_eq_true_eq]
  constructor
  · rintro ⟨m, ⟨⟨⟨hnonneg, -⟩, rfl⟩, hle⟩, rfl⟩
    rw [UInt16.toNat_ofNat_of_lt' (Nat.lt_succ_of_le hle), Int.toNat_of_nonneg hnonneg]
  · rintro rfl
    refine ⟨port.toNat, ⟨⟨⟨Int.natCast_nonneg _, ?_⟩, Int.toNat_natCast _⟩, by omega⟩,
      UInt16.ofNat_toNat⟩
    rw [Int.toNat_natCast]
    exact Nat.lt_trans hlt (by decide)

theorem portOf?_eq_some_iff (hinstance : entry.get? "Service" = some instance_) {port : UInt16} :
    portOf? instance_ = some port ↔ entry.at? ["Service", "Port"] = some (.int port.toNat) := by
  have hport : entry.at? ["Service", "Port"] = instance_.get? "Port" := by
    simp [Json.at?, hinstance]
  rw [hport, portOf?]
  cases instance_.get? "Port" with
  | none => simp
  | some j =>
    cases j with
    | int n =>
      simp only [Option.bind_some, Option.some.injEq, Json.int.injEq]
      exact port_eq_some_iff
    | _ => simp [Json.natural?]

/-- Two labels are taken out, and the node has the last word on its own. -/
theorem find?_metadata {labels : Dict String} {node? : Option String}
    (hlabels : ∀ key, labels.find? key = labelOf? entry key)
    (hnode : node? = entry.textAt? ["Node", "Node"]) (key : String) :
    (match node? with
      | some node => ((labels.erase "namespace").erase "protocol").insert "node" node
      | none => (labels.erase "namespace").erase "protocol").find? key = metadataAt? entry key := by
  subst hnode
  unfold metadataAt?
  cases entry.textAt? ["Node", "Node"] with
  | none =>
    simp only [Dict.find?_erase, hlabels, Option.none_or]
    split
    · next hprotocol => simp [hprotocol]
    · next hprotocol =>
      by_cases hrealm : key = "namespace" <;> simp [hprotocol, hrealm]
  | some node =>
    simp only [Dict.find?_insert, Dict.find?_erase, hlabels, Option.some_or]
    by_cases hnode : key = "node"
    · subst hnode
      simp
    · by_cases hprotocol : key = "protocol"
      · simp [hprotocol]
      · by_cases hrealm : key = "namespace" <;> simp [hnode, hprotocol, hrealm]

theorem describes_of_recordOf? (h : entry.Tidy) {r : Record}
    (hr : recordOf? defaults service entry = some r) : Describes defaults service entry r := by
  simp only [recordOf?, Option.bind_eq_bind, Option.bind_eq_some_iff, Option.pure_def,
    Option.some.injEq] at hr
  obtain ⟨instance_, hinstance, host, hhost, port, hport, rfl⟩ := hr
  have hlabels := find?_labelsOf h hinstance
  rw [textOf?_instance hinstance, textOf?_instance hinstance, hlabels, hlabels]
  exact
    { service := rfl
      instanceId := rfl
      host := (addressOf?_eq_some_iff hinstance).1 hhost
      port := (portOf?_eq_some_iff hinstance).1 hport
      realm := rfl
      protocol := rfl
      metadata := find?_metadata hlabels (textAt?_pair entry "Node" "Node").symm }

theorem isSome_recordOf?_iff :
    (recordOf? defaults service entry).isSome ↔ Complete entry := by
  cases hinstance : entry.get? "Service" with
  | none =>
    simp only [recordOf?, hinstance, Complete, at?_cons]
    simp
  | some instance_ =>
    simp only [recordOf?, hinstance, Option.bind_eq_bind, Option.bind_some,
      Option.isSome_iff_exists, Option.bind_eq_some_iff, Option.pure_def, Option.some.injEq]
    constructor
    · rintro ⟨r, host, hhost, port, hport, -⟩
      refine ⟨⟨host, (addressOf?_eq_some_iff hinstance).1 hhost⟩, port.toNat, ?_,
        (portOf?_eq_some_iff hinstance).1 hport⟩
      exact Nat.le_of_lt_succ port.toNat_lt
    · rintro ⟨⟨host, hhost⟩, n, hn, hport⟩
      have hsame : (UInt16.ofNat n).toNat = n := UInt16.toNat_ofNat_of_lt' (Nat.lt_succ_of_le hn)
      refine ⟨_, host, (addressOf?_eq_some_iff hinstance).2 hhost, .ofNat n,
        (portOf?_eq_some_iff hinstance).2 ?_, rfl⟩
      rw [hsame]
      exact hport

theorem HostOf.unique {host host' : String} (h : HostOf entry host) (h' : HostOf entry host') :
    host = host' := by
  rcases h with ⟨hown, hne⟩ | ⟨hempty, hnode⟩
  · rcases h' with ⟨hown', -⟩ | ⟨hempty, -⟩
    · exact Option.some.inj (hown.symm.trans hown')
    · rw [hown] at hempty
      exact absurd hempty hne
  · rcases h' with ⟨hown, hne⟩ | ⟨-, hnode'⟩
    · rw [hown] at hempty
      exact absurd hempty hne
    · exact Option.some.inj (hnode.symm.trans hnode')

theorem Describes.unique {r r' : Record} (h : Describes defaults service entry r)
    (h' : Describes defaults service entry r') : r = r' := by
  have hport : r.port = r'.port := by
    have hsame := h.port.symm.trans h'.port
    simp only [Option.some.injEq, Json.int.injEq, Int.natCast_inj] at hsame
    exact UInt16.toNat_inj.1 hsame
  have hmetadata : r.metadata = r'.metadata :=
    Dict.ext_find? fun key => (h.metadata key).trans (h'.metadata key).symm
  have hhost := h.host.unique h'.host
  have hservice := h.service.trans h'.service.symm
  have hid := h.instanceId.trans h'.instanceId.symm
  have hrealm := h.realm.trans h'.realm.symm
  have hprotocol := h.protocol.trans h'.protocol.symm
  cases r
  cases r'
  simp_all

end

instance : DecidablePred Complete := fun entry =>
  decidable_of_iff (recordOf? ⟨"", ""⟩ "" entry).isSome isSome_recordOf?_iff

theorem recordsOf_cons (defaults : Defaults) (service : String) (entry : Json) (rest : List Json) :
    recordsOf defaults service (entry :: rest) =
      (recordOf? defaults service entry).toList ++ recordsOf defaults service rest := by
  cases h : recordOf? defaults service entry <;> simp [recordsOf, h]

theorem describes_recordsOf (defaults : Defaults) (service : String) {entries : List Json}
    (htidy : ∀ entry ∈ entries, entry.Tidy) :
    List.Forall₂ (Describes defaults service) (entries.filter Complete)
      (recordsOf defaults service entries) := by
  induction entries with
  | nil => exact List.Forall₂.nil
  | cons entry rest ih =>
    obtain ⟨hentry, hrest⟩ := List.forall_mem_cons.1 htidy
    rw [recordsOf_cons]
    by_cases hcomplete : Complete entry
    · obtain ⟨r, hr⟩ := Option.isSome_iff_exists.1 (isSome_recordOf?_iff.2 hcomplete)
      rw [List.filter_cons_of_pos (by simpa using hcomplete), hr]
      exact List.Forall₂.cons (describes_of_recordOf? hentry hr) (ih hrest)
    · have hnone : recordOf? defaults service entry = none := by
        rw [← Option.not_isSome_iff_eq_none, isSome_recordOf?_iff]
        exact hcomplete
      rw [List.filter_cons_of_neg (by simpa using hcomplete), hnone]
      exact ih hrest

/-- Every entry with an address and a port gives one record, in the order of the entries, and the
others give none; the entry leaves nothing open about the record. Tags `key=value` decide a label
that the metadata does not have, unless the last tag about it is the key on its own. -/
theorem records_describe_entries (defaults : Defaults) (service : String) {entries : List Json}
    (htidy : ∀ entry ∈ entries, entry.Tidy) :
    List.Forall₂ (Describes defaults service) (entries.filter Complete)
      (recordsOf defaults service entries) ∧
    (∀ entry r r', Describes defaults service entry r → Describes defaults service entry r' →
      r = r') ∧
    ∀ entry key, labelOf? entry key =
      if entry.textAt? ["Service", "Meta", key] = none ∧ lastTag? entry key = some key then
        some "true"
      else declared? entry key :=
  ⟨describes_recordsOf defaults service htidy, fun _ _ _ h h' => h.unique h', labelOf?_eq⟩

/-! An instance with an address, a port and tags. -/

def tagged (tags : List String) : Json :=
  .object [("Service", .object
    [("Address", .str "10.0.0.1"), ("Port", .int 9000), ("Tags", .texts tags)])]

theorem tidy_tagged (tags : List String) : (tagged tags).Tidy := by
  have htexts : (Json.texts tags).Tidy := by
    refine Json.itemsTidy_iff.2 ?_
    intro item hitem
    obtain ⟨tag, -, rfl⟩ := List.mem_map.1 hitem
    trivial
  have hinstance : (Json.object
      [("Address", .str "10.0.0.1"), ("Port", .int 9000), ("Tags", .texts tags)]).Tidy := by
    refine Json.tidy_object ?_
    simp [htexts, Json.Tidy]
  refine Json.tidy_object ?_
  simpa using hinstance

/-- An instance whose last tag about the namespace is the key on its own, and an entry without an
instance. -/
theorem records_describe_entries_tagged_twice :
    (∀ entry ∈ [tagged ["namespace=prod", "namespace"], .object []], entry.Tidy) ∧
    List.Forall₂ (Describes ⟨"default", "grpc"⟩ "user")
      ([tagged ["namespace=prod", "namespace"], .object []].filter Complete)
      (recordsOf ⟨"default", "grpc"⟩ "user"
        [tagged ["namespace=prod", "namespace"], .object []]) ∧
    labelOf? (tagged ["namespace=prod", "namespace"]) "namespace" = some "true" := by
  have htidy : ∀ entry ∈ [tagged ["namespace=prod", "namespace"], .object []], entry.Tidy := by
    intro entry hentry
    rcases List.mem_pair.1 hentry with rfl | rfl
    · exact tidy_tagged _
    · exact Json.tidy_object (by simp)
  obtain ⟨hrecords, -, hlabel⟩ := records_describe_entries ⟨"default", "grpc"⟩ "user" htidy
  refine ⟨htidy, hrecords, ?_⟩
  rw [hlabel]
  rfl

/-- A tag without a value decides the namespace, though no tag `key=value` does and there is no
metadata. -/
theorem namespace_of_lone_tag :
    declared? (tagged ["namespace"]) "namespace" = none ∧
    (recordsOf ⟨"default", "grpc"⟩ "user" [tagged ["namespace"]]).map Record.realm = ["true"] := by
  constructor <;> rfl

/-! ## Lists -/

theorem describes_readList? {c : Consul} {service : String} {reply : Response}
    {records : List Record} (h : c.readList? service reply = some records) :
    ∃ entries, Json.parse? reply.body.toList = some (.arr entries) ∧
      List.Forall₂ (Describes c.defaults service) (entries.filter Complete) records := by
  unfold readList? at h
  split at h
  · cases h
  · obtain ⟨entries, hentries, rfl⟩ := Option.map_eq_some_iff.1 h
    obtain ⟨document, hparse, hitems⟩ := Option.bind_eq_some_iff.1 hentries
    cases document with
    | arr items =>
      obtain rfl := Option.some.inj hitems
      have htidy := Json.itemsTidy_iff.1 (Json.tidy_of_parse? hparse)
      exact ⟨items, hparse, describes_recordsOf c.defaults service htidy⟩
    | _ => cases hitems

end Lookout.Consul
