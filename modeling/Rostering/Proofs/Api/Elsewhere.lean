import Rostering.Proofs.Api.Guarded

namespace Rostering.Api

open Http (Request Response)
open Roster (Endpoint)

def Segment (cs : List Char) : Prop := cs ≠ [] ∧ '/' ∉ cs

instance (cs : List Char) : Decidable (Segment cs) := inferInstanceAs (Decidable (_ ∧ _))

def below (cs : List Char) : List Char := basePath.toList ++ '/' :: cs

def recordPath (endpoint id : List Char) : List Char := below (endpoint ++ '/' :: id)

inductive LeadsTo : List Char → Route → Prop where
  | discovery : LeadsTo "/".toList .discovery
  | alive : LeadsTo "/healthz".toList .alive
  | health : LeadsTo "/health-check".toList .health
  | collection {endpoint : List Char} (h : Segment endpoint) :
      LeadsTo (below endpoint) (.collection endpoint)
  | record {endpoint id : List Char} (h : Segment endpoint) (h' : Segment id) :
      LeadsTo (recordPath endpoint id) (.record endpoint id)

theorem pieces_segment {cs : List Char} (h : '/' ∉ cs) : Text.pieces (· == '/') cs = [cs] :=
  Text.pieces_of_no_separator fun c hc => by simpa using ne_of_mem_of_not_mem hc h

theorem pieces_slash {as : List Char} (h : '/' ∉ as) (bs : List Char) :
    Text.pieces (· == '/') (as ++ '/' :: bs) = as :: Text.pieces (· == '/') bs := by
  rw [Text.pieces_append_cons (by decide), pieces_segment h, List.singleton_append]

theorem routeBelow_segment {endpoint : List Char} (h : Segment endpoint) :
    routeBelow endpoint = some (.collection endpoint) := by
  simp [routeBelow, pieces_segment h.2, h.1]

theorem routeBelow_record {endpoint id : List Char} (h : Segment endpoint) (h' : Segment id) :
    routeBelow (endpoint ++ '/' :: id) = some (.record endpoint id) := by
  simp [routeBelow, pieces_slash h.2, pieces_segment h'.2, h.1, h'.1]

theorem leadsTo_of_routeBelow {cs : List Char} {route : Route} (h : routeBelow cs = some route) :
    LeadsTo (below cs) route := by
  by_cases hslash : '/' ∈ cs
  · obtain ⟨endpoint, rest, rfl, hendpoint⟩ := List.eq_append_cons_of_mem hslash
    by_cases hmore : '/' ∈ rest
    · -- A second slash makes a third piece, be it empty.
      obtain ⟨id, more, rfl, hid⟩ := List.eq_append_cons_of_mem hmore
      obtain ⟨p, ps, hps⟩ := List.exists_cons_of_ne_nil (Text.pieces_ne_nil (· == '/') more)
      rw [routeBelow, pieces_slash hendpoint, pieces_slash hid, hps] at h
      contradiction
    · rw [routeBelow, pieces_slash hendpoint, pieces_segment hmore] at h
      obtain ⟨hne, rfl⟩ : (endpoint ≠ [] ∧ rest ≠ []) ∧ .record endpoint rest = route := by
        simpa using h
      exact .record ⟨hne.1, hendpoint⟩ ⟨hne.2, hmore⟩
  · rw [routeBelow, pieces_segment hslash] at h
    obtain ⟨hne, rfl⟩ : cs ≠ [] ∧ .collection cs = route := by simpa using h
    exact .collection ⟨hne, hslash⟩

theorem below_eq (cs : List Char) : below cs = (basePath.toList ++ ['/']) ++ cs := by
  simp [below]

theorem route?_below (cs : List Char) : route? (String.ofList (below cs)) = routeBelow cs := by
  have hopens (name : String) (h : name.toList.take 2 ≠ ['/', 'i']) :
      String.ofList (below cs) ≠ name := by
    rintro rfl
    exact h (by rw [String.toList_ofList]; rfl)
  rw [route?, if_neg (hopens "/" (by decide)), if_neg (hopens "/healthz" (by decide)),
    if_neg (hopens "/health-check" (by decide)), String.toList_ofList, below_eq]
  simp

theorem LeadsTo.route?_eq {cs : List Char} {route : Route} (h : LeadsTo cs route) :
    route? (String.ofList cs) = some route := by
  cases h with
  | discovery | alive | health => rfl
  | collection h => rw [route?_below, routeBelow_segment h]
  | record h h' => rw [recordPath, route?_below, routeBelow_record h h']

theorem route?_eq_some_iff {path : String} {route : Route} :
    route? path = some route ↔ LeadsTo path.toList route := by
  constructor
  · intro h
    simp only [route?] at h
    split at h
    · rename_i hpath
      cases h
      exact hpath ▸ .discovery
    · split at h
      · rename_i hpath
        cases h
        exact hpath ▸ .alive
      · split at h
        · rename_i hpath
          cases h
          exact hpath ▸ .health
        · split at h
          · rename_i hbase
            obtain ⟨rest, hrest⟩ := List.isPrefixOf_iff_prefix.mp hbase
            rw [← hrest, List.drop_left] at h
            rw [← hrest, ← below_eq]
            exact leadsTo_of_routeBelow h
          · contradiction
  · intro h
    rw [← path.ofList_toList]
    exact h.route?_eq

theorem LeadsTo.unique {cs : List Char} {route route' : Route} (h : LeadsTo cs route)
    (h' : LeadsTo cs route') : route = route' :=
  Option.some.inj (h.route?_eq.symm.trans h'.route?_eq)

inductive Route.Served : Route → Prop where
  | discovery : Served .discovery
  | alive : Served .alive
  | health : Served .health
  | collection {segment : List Char} {endpoint : Endpoint}
      (named : decodeSegment segment = some endpoint.path) : Served (.collection segment)
  | record {segment id : List Char} {endpoint : Endpoint} {sourcedId : String}
      (named : decodeSegment segment = some endpoint.path)
      (read : decodeSegment id = some sourcedId) : Served (.record segment id)

inductive Route.Garbled : Route → String → Prop where
  | collection {segment : List Char} (bad : decodeSegment segment = none) :
      Garbled (.collection segment) "endpoint"
  | record {segment id : List Char} (bad : decodeSegment segment = none) :
      Garbled (.record segment id) "endpoint"
  | id {segment id : List Char} {name : String} (read : decodeSegment segment = some name)
      (bad : decodeSegment id = none) : Garbled (.record segment id) "sourced_id"

def Known (cs : List Char) : Prop := ∃ route, LeadsTo cs route ∧ route.Served

def Garbled (cs : List Char) (name : String) : Prop := ∃ route, LeadsTo cs route ∧ route.Garbled name

section

variable {route : Route} {name : String}

theorem Route.Garbled.not_served (h : route.Garbled name) : ¬ route.Served := by
  intro hserved
  cases h with
  | collection bad => cases hserved with | collection named => simp [bad] at named
  | record bad => cases hserved with | record named _ => simp [bad] at named
  | id _ bad => cases hserved with | record _ read => simp [bad] at read

theorem Garbled.not_known {cs : List Char} (h : Garbled cs name) : ¬ Known cs := by
  rintro ⟨route', hleads', hserved⟩
  obtain ⟨route, hleads, hgarbled⟩ := h
  exact hgarbled.not_served (hleads.unique hleads' ▸ hserved)

theorem Route.Garbled.handle_eq (h : route.Garbled name) (app : App) (request : Request) :
    handle app request route = .immediate (badSegment name) := by
  cases h with
  | collection bad => simp only [handle, bad]
  | record bad => simp only [handle, bad]
  | id read bad => simp only [handle, read, bad]

theorem handle_collection_missing {segment : List Char} (hread : decodeSegment segment = some name)
    (hunserved : ¬ (Route.collection segment).Served) (app : App) (request : Request) :
    handle app request (.collection segment) = .immediate missing := by
  have hnowhere (endpoint : Endpoint) : endpoint.path ≠ name := by
    rintro rfl
    exact hunserved (.collection hread)
  simp only [handle, hread]
  exact @serve_of_access_error app ⟨request.grant, name, .collection request.target.query⟩ _
    (access_of_unknown hnowhere)

theorem handle_record_missing {segment id : List Char} {sourcedId : String}
    (hread : decodeSegment segment = some name) (hread' : decodeSegment id = some sourcedId)
    (hunserved : ¬ (Route.record segment id).Served) (app : App) (request : Request) :
    handle app request (.record segment id) = .immediate missing := by
  have hnowhere (endpoint : Endpoint) : endpoint.path ≠ name := by
    rintro rfl
    exact hunserved (.record hread hread')
  simp only [handle, hread, hread']
  exact @serve_of_access_error app ⟨request.grant, name, .record sourcedId⟩ _
    (access_of_unknown hnowhere)

theorem handle_missing (hunserved : ¬ route.Served) (hclear : ∀ name, ¬ route.Garbled name)
    (app : App) (request : Request) : handle app request route = .immediate missing := by
  cases route with
  | discovery => exact absurd .discovery hunserved
  | alive => exact absurd .alive hunserved
  | health => exact absurd .health hunserved
  | collection segment =>
      cases hread : decodeSegment segment with
      | none => exact absurd (.collection hread) (hclear _)
      | some name => exact handle_collection_missing hread hunserved app request
  | record segment id =>
      cases hread : decodeSegment segment with
      | none => exact absurd (.record hread) (hclear _)
      | some name =>
          cases hread' : decodeSegment id with
          | none => exact absurd (.id hread hread') (hclear _)
          | some sourcedId => exact handle_record_missing hread hread' hunserved app request

end

def handling (app : App) (request : Request) : Handling :=
  match route? request.target.path with
  | none => .immediate missing
  | some route => handle app request route

theorem handling_of_leadsTo {request : Request} {route : Route}
    (h : LeadsTo request.target.path.toList route) (app : App) :
    handling app request = handle app request route := by
  rw [handling, route?_eq_some_iff.mpr h]

theorem handling_missing {request : Request} (hunknown : ¬ Known request.target.path.toList)
    (hclear : ∀ name, ¬ Garbled request.target.path.toList name) (app : App) :
    handling app request = .immediate missing := by
  cases hroute : route? request.target.path with
  | none => rw [handling, hroute]
  | some route =>
      have hleads := route?_eq_some_iff.mp hroute
      rw [handling_of_leadsTo hleads]
      exact handle_missing (fun h => hunknown ⟨route, hleads, h⟩)
        (fun name h => hclear name ⟨route, hleads, h⟩) app request

theorem handling_garbled {request : Request} {name : String}
    (h : Garbled request.target.path.toList name) (app : App) :
    handling app request = .immediate (badSegment name) := by
  obtain ⟨route, hleads, hgarbled⟩ := h
  rw [handling_of_leadsTo hleads, hgarbled.handle_eq]

theorem exchange_of_immediate {app : App} {request : Request} {response : Response}
    (hget : request.method = "GET") (h : handling app request = .immediate response)
    (fresh : String) : (exchange app fresh request).1 = [] ∧
      (exchange app fresh request).2.status = response.status ∧
      (exchange app fresh request).2.body = response.body := by
  have hdispatch : dispatch app request =
      ((handling app request).executed, (handling app request).response.getD (.empty 408)) := by
    simp only [dispatch, hget, handling]
    cases route? request.target.path <;> rfl
  rw [exchange, hdispatch, h]
  exact ⟨rfl, rfl, rfl⟩

theorem exchange_elsewhere (app : App) (fresh : String) (request : Request)
    (hget : request.method = "GET") (helsewhere : ¬ Known request.target.path.toList) :
    (exchange app fresh request).1 = [] ∧
      ((∀ name, ¬ Garbled request.target.path.toList name) →
        (exchange app fresh request).2.status = 404 ∧
          (exchange app fresh request).2.body = "\x7b\"error\":\"Not found\"\x7d") ∧
      ∀ name, Garbled request.target.path.toList name →
        (exchange app fresh request).2.status = 400 ∧
          (exchange app fresh request).2.body =
            "Invalid URL: Invalid UTF-8 in \x60" ++ name ++ "\x60" := by
  have hmissing : missing.body = "\x7b\"error\":\"Not found\"\x7d" := by decide
  refine ⟨?_, fun hclear => ?_, fun name hgarbled => ?_⟩
  · by_cases hclear : ∀ name, ¬ Garbled request.target.path.toList name
    · exact (exchange_of_immediate hget (handling_missing helsewhere hclear app) fresh).1
    · obtain ⟨name, hgarbled⟩ := not_forall_not.mp hclear
      exact (exchange_of_immediate hget (handling_garbled hgarbled app) fresh).1
  · rw [← hmissing]
    exact (exchange_of_immediate hget (handling_missing helsewhere hclear app) fresh).2
  · exact (exchange_of_immediate hget (handling_garbled hgarbled app) fresh).2

def emptyApp : App :=
  ⟨⟨.postgres, defaultSchema, .constant "empty" (.records [])⟩, true, ⟨Query.usualLimit, none⟩, none⟩

def getOf (path : String) : Request := ⟨"GET", ⟨path, none⟩, [], none⟩

theorem elsewhere_after_slash :
    ¬ Known (basePath ++ "/orgs/").toList ∧
      (exchange emptyApp "1" (getOf (basePath ++ "/orgs/"))).1 = [] ∧
      (exchange emptyApp "1" (getOf (basePath ++ "/orgs/"))).2.status = 404 := by
  have hnowhere (route : Route) : ¬ LeadsTo (basePath ++ "/orgs/").toList route := by
    rw [← route?_eq_some_iff]
    exact fun h => nomatch h.symm.trans (by decide : route? (basePath ++ "/orgs/") = none)
  have hunknown : ¬ Known (basePath ++ "/orgs/").toList := fun ⟨route, h, _⟩ => hnowhere route h
  obtain ⟨hnone, hmissing, -⟩ :=
    exchange_elsewhere emptyApp "1" (getOf (basePath ++ "/orgs/")) rfl hunknown
  exact ⟨hunknown, hnone, (hmissing fun _ ⟨route, h, _⟩ => hnowhere route h).1⟩

theorem garbled_segment_refused :
    (getOf (basePath ++ "/%FF")).method = "GET" ∧ ¬ Known (basePath ++ "/%FF").toList ∧
      (exchange emptyApp "1" (getOf (basePath ++ "/%FF"))).2.status = 400 ∧
      (exchange emptyApp "1" (getOf (basePath ++ "/%FF"))).2.body =
        "Invalid URL: Invalid UTF-8 in \x60endpoint\x60" := by
  have hroute : route? (basePath ++ "/%FF") = some (.collection "%FF".toList) := by decide
  have hgarbled : Garbled (basePath ++ "/%FF").toList "endpoint" :=
    ⟨_, route?_eq_some_iff.mp hroute, .collection (by decide)⟩
  have hbad : handling emptyApp (getOf (basePath ++ "/%FF")) =
      .immediate (badSegment "endpoint") := handling_garbled hgarbled emptyApp
  exact ⟨rfl, hgarbled.not_known, (exchange_of_immediate rfl hbad "1").2⟩

end Rostering.Api
