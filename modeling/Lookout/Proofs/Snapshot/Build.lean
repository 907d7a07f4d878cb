import Lookout.Builder
import Lookout.Proofs.Json
import Lookout.Proofs.Snapshot
import Lookout.Proofs.Snapshot.Matching
import Lookout.Proofs.Text.ByteOrder
import Mathlib.Data.Prod.Lex

/-!
# What a build makes of a listing

A build accepts some records of a listing, makes an endpoint of each and puts them in order. Of
endpoints that tie the one whose record came first stays first, so the order of the records shows
in the snapshot only where endpoints tie, and never in which endpoints it holds.
-/
set_option autoImplicit false

namespace Lookout

namespace Policy

theorem find?_attributesOf (metadata : Dict String) (key : String) :
    (attributesOf metadata).find? key = (metadata.find? key).map .str := by
  rw [attributesOf, Dict.find?_ofList, List.filter_map]
  simp only [Function.comp_def]
  rw [metadata.entries_filter_key]
  cases metadata.find? key <;> rfl

/-- The policy accepts the record as this endpoint. -/
structure Accepts (p : Policy) (r : Record) (e : Endpoint) : Prop where
  realm : r.realm = p.realm
  service : r.service = p.service
  allowed : p.protocols.contains r.protocol = true
  address : Address.normalize? r.host r.port = some e.address
  protocol : e.protocol = r.protocol
  name : e.name = if r.instanceId = "" then e.address else r.instanceId
  attributes : ∀ key, e.attributes.find? key = (r.metadata.find? key).map .str

theorem wants_iff {p : Policy} {r : Record} : p.wants r = true ↔
    r.realm = p.realm ∧ p.protocols.contains r.protocol = true ∧ r.service = p.service := by
  simp only [wants, Bool.and_eq_true, beq_iff_eq, and_assoc]

theorem filter_eq_some_iff {p : Policy} {r : Record} {e : Endpoint} :
    p.filter r = some e ↔ p.Accepts r e := by
  constructor
  · intro h
    obtain ⟨hwants, hmade⟩ := Option.ite_none_right_eq_some.1 h
    obtain ⟨hrealm, hallowed, hservice⟩ := wants_iff.1 hwants
    obtain ⟨address, haddress, rfl⟩ := Option.map_eq_some_iff.1 hmade
    exact ⟨hrealm, hservice, hallowed, haddress, rfl, by simp, find?_attributesOf r.metadata⟩
  · intro h
    have hattributes : attributesOf r.metadata = e.attributes :=
      Dict.ext_find? fun key => (find?_attributesOf _ key).trans (h.attributes key).symm
    rw [filter, if_pos (wants_iff.2 ⟨h.realm, h.allowed, h.service⟩), Endpoint.create?, h.address,
      hattributes, ← h.protocol]
    simp [h.name.symm]

end Policy

namespace Endpoint

/-- What endpoints are ordered by: the bytes of the address, then of the protocol, then of the
name. -/
def rank (e : Endpoint) : List Nat ×ₗ List Nat ×ₗ List Nat :=
  toLex (Text.bytes e.address, toLex (Text.bytes e.protocol, Text.bytes e.name))

theorem precedes_iff {a b : Endpoint} : a.precedes b = true ↔ a.rank ≤ b.rank := by
  simp only [rank, Prod.Lex.toLex_le_toLex, Text.bytes_strictMono.lt_iff_lt, Text.bytes_le_iff,
    Text.bytes_strictMono.injective.eq_iff]
  unfold precedes
  split
  · next hne => simp [hne]
  · next heq =>
    have haddress : a.address = b.address := not_not.1 heq
    split
    · next hne => simp [haddress, hne]
    · next heq =>
      have hprotocol : a.protocol = b.protocol := not_not.1 heq
      simp [haddress, hprotocol]

theorem precedes_trans (a b c : Endpoint) (hab : a.precedes b = true) (hbc : b.precedes c = true) :
    a.precedes c = true :=
  precedes_iff.2 ((precedes_iff.1 hab).trans (precedes_iff.1 hbc))

theorem precedes_total (a b : Endpoint) : (a.precedes b || b.precedes a) = true := by
  rw [Bool.or_eq_true, precedes_iff, precedes_iff]
  exact le_total _ _

end Endpoint

theorem Origin.account (o : Origin) :
    o.attributes.get? "records_total" = some (.int o.recordsTotal) ∧
    o.attributes.get? "records_rejected" = some (.int o.recordsRejected) := by
  simp only [Origin.attributes, Json.object, Json.get?_ofDict, Dict.find?_ofList]
  split <;> exact ⟨rfl, rfl⟩

namespace Snapshot

section
variable (policy : Policy) (records : List Record)

theorem endpointsOf_perm :
    (endpointsOf policy records).Perm (records.filterMap policy.filter) :=
  List.mergeSort_perm _ _

theorem endpointsOf_sorted :
    (endpointsOf policy records).Pairwise fun a b => a.rank ≤ b.rank :=
  (List.pairwise_mergeSort Endpoint.precedes_trans Endpoint.precedes_total _).imp
    Endpoint.precedes_iff.1

/-- Endpoints that tie stay in the order of their records. -/
theorem filter_endpointsOf (rank : List Nat ×ₗ List Nat ×ₗ List Nat) :
    (endpointsOf policy records).filter (·.rank = rank) =
      (records.filterMap policy.filter).filter (·.rank = rank) := by
  have htied : ((records.filterMap policy.filter).filter (·.rank = rank)).Pairwise
      fun a b => a.precedes b = true := by
    refine List.pairwise_of_forall_mem_list ?_
    intro a ha b hb
    have hrank : a.rank = b.rank :=
      (of_decide_eq_true (List.mem_filter.1 ha).2).trans
        (of_decide_eq_true (List.mem_filter.1 hb).2).symm
    exact Endpoint.precedes_iff.2 hrank.le
  have hkept : ((records.filterMap policy.filter).filter (·.rank = rank)).Sublist
      ((endpointsOf policy records).filter (·.rank = rank)) := by
    have hsublist : List.Sublist _ (endpointsOf policy records) :=
      List.sublist_mergeSort Endpoint.precedes_trans Endpoint.precedes_total htied
        List.filter_sublist
    have hfilter := hsublist.filter (·.rank = rank)
    simpa only [List.filter_filter, Bool.and_self] using hfilter
  exact (hkept.eq_of_length ((endpointsOf_perm policy records).filter _).length_eq.symm).symm

variable {policy records} {records' : List Record}

theorem endpointsOf_perm_endpointsOf (h : records.Perm records') :
    (endpointsOf policy records).Perm (endpointsOf policy records') :=
  (endpointsOf_perm policy records).trans
    ((h.filterMap _).trans (endpointsOf_perm policy records').symm)

/-- Where no endpoints tie the order of the records does not show. -/
theorem endpointsOf_eq_of_perm (h : records.Perm records')
    (huntied : ((records.filterMap policy.filter).map Endpoint.rank).Nodup) :
    endpointsOf policy records = endpointsOf policy records' := by
  refine List.Perm.eq_of_pairwise ?_ (endpointsOf_sorted policy records)
    (endpointsOf_sorted policy records') (endpointsOf_perm_endpointsOf h)
  intro a b ha hb hab hba
  have haccepted := (endpointsOf_perm policy records).mem_iff.1 ha
  have haccepted' := (endpointsOf_perm policy records).mem_iff.1
    ((endpointsOf_perm_endpointsOf h).mem_iff.2 hb)
  exact List.inj_on_of_nodup_map huntied haccepted haccepted' (le_antisymm hab hba)

end

/-! ## The account of a build -/

theorem length_endpointsOf_le (policy : Policy) (records : List Record) :
    (endpointsOf policy records).length ≤ records.length :=
  (endpointsOf_perm policy records).length_eq ▸ List.length_filterMap_le _ _

/-- The snapshot holds what the policy accepts of the records, in order, and accounts for them. -/
structure Reports (s : Snapshot) (policy : Policy) (records : List Record) : Prop where
  perm : s.endpoints.Perm (records.filterMap policy.filter)
  sorted : s.endpoints.Pairwise fun a b => a.rank ≤ b.rank
  /-- Endpoints that tie are in the order of their records. -/
  ties : ∀ rank, s.endpoints.filter (·.rank = rank) =
    (records.filterMap policy.filter).filter (·.rank = rank)
  total : s.origin.attributes.get? "records_total" = some (.int records.length)
  rejected : ∃ rejected : Nat,
    s.origin.attributes.get? "records_rejected" = some (.int rejected) ∧
      rejected + s.endpoints.length = records.length

theorem reports_build (label : Label) (service : String) (policy : Policy) (revision : UInt64)
    (records : List Record) :
    (build label service policy revision records).Reports policy records where
  perm := endpointsOf_perm policy records
  sorted := endpointsOf_sorted policy records
  ties := filter_endpointsOf policy records
  total := (Origin.account _).1
  rejected :=
    ⟨_, (Origin.account _).2, Nat.sub_add_cancel (length_endpointsOf_le policy records)⟩

end Snapshot

namespace Builder

/-- A build from its beginning to the instant at which it is looked at, with the source as it is at
either time. -/
structure Occasion where
  begun : Instant
  asked : Source
  ended : Instant
  answering : Source
  /-- The last revision that was used up. -/
  revision : UInt64

namespace Occasion

variable (o : Occasion) (b : Builder) (service : String) (policy : Policy)

def build : Build := (b.start o.asked o.begun service policy).2

def built? : Option (Except Failure Snapshot) :=
  b.outcome? (o.build b service policy) o.ended o.answering o.revision

def listing : Listing := (o.asked.beginList o.begun service b.limit?).2

/-- What the source has replied by then. -/
def reply? : Option (Except Listing.Fault (List Record)) :=
  (o.listing b service).outcome? o.ended o.answering

end Occasion

section
variable {b : Builder} {service : String} {policy : Policy} {o : Occasion} {records : List Record}

theorem built?_of_reply (h : o.reply? b service = some (.ok records)) :
    o.built? b service policy = some (.ok (.build b.label (o.listing b service).service policy
      (o.revision + 1) records)) := by
  have hlisting : (o.build b service policy).listing = o.listing b service := rfl
  rw [Occasion.reply?, ← hlisting] at h
  rw [Occasion.built?, outcome?, h]
  rfl

end

/-- A build whose list succeeds in time succeeds, and its snapshot reports the records: it holds the
endpoints of those the policy accepts, by the bytes of address, protocol and name, with ties in the
order of the records. The same records in another order give the same endpoints, and in the same
order too if none tie. -/
theorem built_of_reply (b : Builder) (service : String) (policy : Policy) (o : Occasion)
    {records : List Record} (hreply : o.reply? b service = some (.ok records))
    (hroom : o.revision.toNat < 2 ^ 64 - 1) :
    (∀ r e, policy.filter r = some e ↔ policy.Accepts r e) ∧
    ∃ s, o.built? b service policy = some (.ok s) ∧ s.Reports policy records ∧
      s.revision.toNat = o.revision.toNat + 1 ∧
      ∀ (b' : Builder) (o' : Occasion) (records' : List Record),
        o'.reply? b' service = some (.ok records') → records.Perm records' →
        ∃ s', o'.built? b' service policy = some (.ok s') ∧ s.sameEndpoints s' = true ∧
          (((records.filterMap policy.filter).map Endpoint.rank).Nodup →
            s.endpoints = s'.endpoints) := by
  refine ⟨fun r e => Policy.filter_eq_some_iff, _, built?_of_reply hreply,
    Snapshot.reports_build .., ?_, ?_⟩
  · change (o.revision + 1).toNat = _
    rw [UInt64.toNat_add]
    exact Nat.mod_eq_of_lt (Nat.add_lt_of_lt_sub hroom)
  · intro b' o' records' hreply' hperm
    refine ⟨_, built?_of_reply hreply', ?_, Snapshot.endpointsOf_eq_of_perm hperm⟩
    exact Snapshot.sameEndpoints_iff.2
      ((Snapshot.endpointsOf_perm_endpointsOf hperm).map Endpoint.kind)

/-! A source in memory, which lists at once. Of its three records one has no host. -/

def listingAt (instant : Instant) (records : List Record) : Occasion :=
  ⟨instant, .memory (Memory.empty.setRecords "user" records), instant,
    .memory (Memory.empty.setRecords "user" records), 6⟩

def standard : Builder := ⟨⟨"memory", "", ""⟩, none⟩

def three : List Record :=
  [Snapshot.listed "10.0.0.2" "b", Snapshot.listed "" "c", Snapshot.listed "10.0.0.1" "a"]

def threeSwapped : List Record :=
  [Snapshot.listed "" "c", Snapshot.listed "10.0.0.2" "b", Snapshot.listed "10.0.0.1" "a"]

theorem built_of_three :
    ∃ s s', (listingAt 0 three).built? standard "user" (.create "n" "user" ["grpc"]) =
        some (.ok s) ∧
      (listingAt 5 threeSwapped).built? standard "user" (.create "n" "user" ["grpc"]) =
        some (.ok s') ∧
      s.endpoints.Perm [Snapshot.far, Snapshot.near] ∧ s.endpoints = s'.endpoints ∧
      s.revision.toNat = 7 := by
  obtain ⟨-, s, hbuilt, hreports, hrevision, hagain⟩ :=
    built_of_reply standard "user" (.create "n" "user" ["grpc"]) (listingAt 0 three) rfl (by decide)
  obtain ⟨s', hbuilt', -, hsame⟩ :=
    hagain standard (listingAt 5 threeSwapped) threeSwapped rfl (List.Perm.swap ..)
  exact ⟨s, s', hbuilt, hbuilt', hreports.perm, hsame (by decide +kernel), hrevision⟩

end Builder

end Lookout
