import Lookout.Consul
import Lookout.Proofs.Url.Segment

/-!
# The resource of a service

The name of a service is written into the address of its resource as it is. So the name selects a
resource of its own, and adds nothing to the query, exactly if it can be a segment of a path; any
other name is read as something else, which may be the resource of another service.
-/
set_option autoImplicit false

namespace Lookout.Consul

/-- The segments behind the address of an agent under which it gives the health of services. -/
def healthPath : List (List Char) := ["v1".toList, "health".toList, "service".toList]

/-- The place of an agent: its address with a slash behind it. -/
def root? (c : Consul) : Option Url := Url.parse? (c.url ++ "/")

def queryText? (pairs : List (String × String)) : Option (List Char) :=
  if pairs.isEmpty then none
  else some (['&'].intercalate (pairs.map fun p =>
    Url.encodeForm p.1.toList ++ '=' :: Url.encodeForm p.2.toList))

/-- A request that is for the resource of a name, as one segment behind the place, with that query
and no more. -/
structure Selects (root : Url) (name : String) (query : List (String × String)) (request : Url) :
    Prop where
  site : request.scheme = root.scheme ∧ request.host = root.host ∧ request.port? = root.port?
  path : ∃ segment, request.path = root.path.dropLast ++ healthPath ++ [segment] ∧
    '/' ∉ segment ∧ Url.decodeText? segment = some name
  query : request.query? = queryText? query
  fragment : request.fragment? = none

/-! ## What a name is read as -/

section
variable {c : Consul} {root : Url}

theorem query?_addQuery {u : Url} (h : u.query? = none) (pairs : List (String × String)) :
    (u.addQuery pairs).query? = queryText? pairs := by
  simp [Url.addQuery, queryText?, h]

theorem withoutCredentials_eq (u : Url) :
    ∃ username password, u.withoutCredentials = { u with username, password } := by
  rcases (ite_eq_or_eq _ _ _ : u.withoutCredentials = _ ∨ u.withoutCredentials = u) with h | h
  · exact ⟨[], [], h⟩
  · exact ⟨u.username, u.password, h⟩

theorem breakAt_stem (rest : List Char) :
    Url.breakAt Url.endsPath ("v1/health/service".toList ++ '/' :: rest) =
      ("v1/health/service".toList ++ '/' :: (Url.breakAt Url.endsPath rest).1,
        (Url.breakAt Url.endsPath rest).2) := by
  have hplain : ∀ d ∈ "v1/health/service".toList ++ ['/'], Url.endsPath d = false := by
    simp [Url.endsPath]
  simpa only [List.append_assoc, List.singleton_append] using
    Url.breakAt_append_of_forall hplain rest

theorem trailing_stem (name : List Char) :
    Url.trailing ("v1/health/service".toList ++ '/' :: name) =
      "v1/health/service".toList ++ '/' :: Url.trailing name := by
  rw [Url.trailing_append_cons (by decide)]
  rfl

theorem resolve_stem (done : List (List Char)) (scheme rest : List Char) :
    Url.resolve done
        (Url.splitOn '/' (Url.slashed scheme ("v1/health/service".toList ++ '/' :: rest))) =
      Url.resolve (healthPath.reverse ++ done) (Url.splitOn '/' (Url.slashed scheme rest)) := by
  have hstem : Url.slashed scheme "v1/health/service".toList = "v1/health/service".toList :=
    Url.slashed_eq_self fun _ => by decide
  rw [Url.slashed_append_cons, hstem, Url.splitOn_append_cons,
    Url.resolve_append _ _ (Url.splitOn_ne_nil _ _)]
  rfl

theorem parse?_healthUrl (hroot : c.root? = some root) (hquery : root.query? = none)
    (hfragment : root.fragment? = none) (name : String) :
    Url.parse? (c.healthUrl name) =
      some
        { root with
          path := Url.resolve (root.path.dropLast ++ healthPath).reverse
            (Url.segmentsOf root.scheme name.toList)
          query? := (root.withRest (Url.trailing name.toList)).query?
          fragment? := (root.withRest (Url.trailing name.toList)).fragment? } := by
  have hurl : c.healthUrl name = c.url ++ "/" ++ ("v1/health/service/" ++ name) := by
    have hparts : "/v1/health/service/" = "/" ++ "v1/health/service/" := by decide
    rw [healthUrl, hparts]
    simp only [String.append_assoc]
  have hback : ("v1/health/service/" ++ name).toList =
      "v1/health/service".toList ++ '/' :: name.toList := by simp
  have hrest : ∀ u : Url, ∀ rest,
      (u.withRest ("v1/health/service".toList ++ '/' :: rest)).query? = (u.withRest rest).query? ∧
      (u.withRest ("v1/health/service".toList ++ '/' :: rest)).fragment? =
        (u.withRest rest).fragment? := by
    intro u rest
    simp only [Url.withRest, breakAt_stem, and_self]
  rw [hurl, Url.parse?_below hroot hquery hfragment, hback, trailing_stem, breakAt_stem,
    resolve_stem, (hrest _ _).1, (hrest _ _).2, List.reverse_append]
  rfl

theorem request?_eq (hroot : c.root? = some root) (hquery : root.query? = none)
    (hfragment : root.fragment? = none) (name : String) (query : List (String × String)) :
    ∃ username password, c.request? name query = some
      (Url.addQuery
        { root with
          username, password
          path := Url.resolve (root.path.dropLast ++ healthPath).reverse
            (Url.segmentsOf root.scheme name.toList)
          query? := (root.withRest (Url.trailing name.toList)).query?
          fragment? := (root.withRest (Url.trailing name.toList)).fragment? } query) := by
  unfold request?
  rw [parse?_healthUrl hroot hquery hfragment, Option.map_some]
  obtain ⟨username, password, h⟩ := withoutCredentials_eq
    { root with
      path := Url.resolve (root.path.dropLast ++ healthPath).reverse
        (Url.segmentsOf root.scheme name.toList)
      query? := (root.withRest (Url.trailing name.toList)).query?
      fragment? := (root.withRest (Url.trailing name.toList)).fragment? }
  exact ⟨username, password, by rw [h]⟩

theorem exists_request (hroot : c.root? = some root) (hquery : root.query? = none)
    (hfragment : root.fragment? = none) (name : String) (query : List (String × String)) :
    ∃ request, c.request? name query = some request ∧
      (Selects root name query request ↔ Url.IsSegment root.scheme name.toList) := by
  obtain ⟨username, password, hrequest⟩ := request?_eq hroot hquery hfragment name query
  refine ⟨_, hrequest, ?_⟩
  have hiff := @Url.resolve_segmentsOf_iff root.scheme name.toList
    (root.path.dropLast ++ healthPath).reverse
  rw [List.reverse_reverse] at hiff
  constructor
  · intro h
    obtain ⟨segment, hpath, hslash, hread⟩ := h.path
    exact hiff.1 ⟨segment, hpath, hslash, Url.decodeText?_eq_some_iff.1 hread⟩
  · intro h
    obtain ⟨segment, hpath, hslash, hread⟩ := hiff.2 h
    have hplain : ∀ d ∈ name.toList, Url.endsPath d = false :=
      Url.breakAt_snd_eq_nil_iff.1 (by rw [h.breakAt_eq])
    have hrest := Url.withRest_of_forall root hplain
    rw [h.trailing_eq, hrest]
    exact
      { site := ⟨rfl, rfl, rfl⟩
        path := ⟨segment, hpath, hslash, Url.decodeText?_eq_some_iff.2 hread⟩
        query := query?_addQuery rfl query
        fragment := rfl }

theorem Selects.pathText_ne {name name' : String} {query query' : List (String × String)}
    {request request' : Url} (h : Selects root name query request)
    (h' : Selects root name' query' request') (hne : name ≠ name') :
    request.pathText ≠ request'.pathText := by
  obtain ⟨segment, hpath, -, hread⟩ := h.path
  obtain ⟨segment', hpath', -, hread'⟩ := h'.path
  intro hsame
  have hsegments : segment = segment' := by simpa [Url.pathText, hpath, hpath'] using hsame
  rw [hsegments, hread'] at hread
  exact hne (Option.some.inj hread).symm

/-! ## What is sent -/

theorem requests_list (c : Consul) (name : String) (reply : Response) :
    (c.list name reply).1 = (c.request? name c.baseQuery).toList := by
  unfold list listRequest?
  cases c.request? name c.baseQuery <;> rfl

theorem request_of_follow {name : String} {end? : Option Instant} {replies : List Response}
    {sentAt : Instant} {request : Url}
    (h : (sentAt, request) ∈ (c.follow name end? replies).1) :
    ∃ index, c.request? name (c.watchQuery index) = some request := by
  unfold follow at h
  split at h
  · cases h
  · obtain ⟨⟨_, index⟩, -, hrequest⟩ := List.mem_filterMap.1 h
    obtain ⟨_, hwatch, heq⟩ := Option.map_eq_some_iff.1 hrequest
    obtain ⟨-, rfl⟩ := Prod.mk.inj heq
    exact ⟨index, hwatch⟩

end

/-- For every name there is a request, sent by each list and each poll of it. It is for the resource
of the name, with the query that belongs to it and no more, exactly if the name can be a segment; so
two names that can be segments never share a path. The place behind which the requests go is the
configured address with a slash at its end. -/
theorem requests_select_iff {c : Consul} {root : Url} (hroot : c.root? = some root)
    (hquery : root.query? = none) (hfragment : root.fragment? = none) :
    (∀ name query, ∃ request, c.request? name query = some request ∧
      (Selects root name query request ↔ Url.IsSegment root.scheme name.toList)) ∧
    (∀ name name' query query' request request', name ≠ name' →
      Url.IsSegment root.scheme name.toList → Url.IsSegment root.scheme name'.toList →
      c.request? name query = some request → c.request? name' query' = some request' →
      request.pathText ≠ request'.pathText) ∧
    (∀ name reply, (c.list name reply).1 = (c.request? name c.baseQuery).toList) ∧
    (∀ name end? replies sentAt request, (sentAt, request) ∈ (c.follow name end? replies).1 →
      ∃ index, c.request? name (c.watchQuery index) = some request) ∧
    (∀ u, Url.parse? c.url = some u → u.query? = none → u.fragment? = none →
      (∀ ch, c.url.toList.getLast? = some ch → Url.isEdge ch = false ∧ Url.isSlash ch = false) →
      root = { u with path := Url.stem u.path ++ [[]] }) := by
  have hrequest := exists_request hroot hquery hfragment
  refine ⟨hrequest, ?_, requests_list c, fun _ _ _ _ _ h => request_of_follow h, ?_⟩
  · intro name name' query query' request request' hne hname hname' hsent hsent'
    obtain ⟨other, hother, hiff⟩ := hrequest name query
    obtain ⟨other', hother', hiff'⟩ := hrequest name' query'
    obtain rfl := Option.some.inj (hother.symm.trans hsent)
    obtain rfl := Option.some.inj (hother'.symm.trans hsent')
    exact (hiff.2 hname).pathText_ne (hiff'.2 hname') hne
  · intro u hu huquery hufragment hend
    exact Option.some.inj (hroot.symm.trans (Url.parse?_concat_slash hu huquery hufragment hend))

def loopback : Consul :=
  { url := "http://[::1]:8500", defaults := ⟨"default", "grpc"⟩
    passingOnly := true, wait := .ofSecs 30 }

def loopbackRoot : Url :=
  { scheme := "http".toList, username := [], password := [], host := "[::1]".toList
    port? := some 8500, path := [[]], query? := none, fragment? := none }

theorem requests_select_on_loopback :
    loopback.root? = some loopbackRoot ∧ "user" ≠ "order-v2" ∧
    ∃ request request', loopback.request? "user" loopback.baseQuery = some request ∧
      loopback.request? "order-v2" loopback.baseQuery = some request' ∧
      Selects loopbackRoot "user" loopback.baseQuery request ∧
      request.pathText ≠ request'.pathText ∧
      loopbackRoot = { loopbackRoot with path := Url.stem [[]] ++ [[]] } := by
  have huser : Url.IsSegment loopbackRoot.scheme "user".toList :=
    Url.isSegment_of_isPlain _ (List.all_eq_true.1 (by decide))
  have horder : Url.IsSegment loopbackRoot.scheme "order-v2".toList :=
    Url.isSegment_of_isPlain _ (List.all_eq_true.1 (by decide))
  obtain ⟨hsend, happart, -, -, hplace⟩ :=
    @requests_select_iff loopback loopbackRoot rfl rfl rfl
  obtain ⟨request, hrequest, hiff⟩ := hsend "user" loopback.baseQuery
  obtain ⟨request', hrequest', -⟩ := hsend "order-v2" loopback.baseQuery
  refine ⟨rfl, by decide, request, request', hrequest, hrequest', hiff.2 huser, ?_, ?_⟩
  · exact happart _ _ _ _ _ _ (by decide) huser horder hrequest hrequest'
  · refine hplace loopbackRoot rfl rfl rfl ?_
    intro ch hch
    obtain rfl : '0' = ch := Option.some.inj hch
    decide

/-- Dots in a name lead to the resource of another one, and a question mark in a name adds to the
query. -/
theorem names_lead_elsewhere :
    (loopback.request? "order/../user" loopback.baseQuery).map Url.text =
      some "http://[::1]:8500/v1/health/service/user?passing=true" ∧
    (loopback.request? "user" loopback.baseQuery).map Url.text =
      some "http://[::1]:8500/v1/health/service/user?passing=true" ∧
    (loopback.request? "user?dc=2" loopback.baseQuery).map Url.text =
      some "http://[::1]:8500/v1/health/service/user?dc=2&passing=true" := by
  decide +kernel

end Lookout.Consul
