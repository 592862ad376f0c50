import IngressController.Api.Client
import IngressController.Proofs.Api.Parameters
import IngressController.Proofs.Program
import IngressController.Proofs.Text.Numeral
import Mathlib.Data.List.Forall2

/-!
# `IngressController.Proofs.Api.Pages`: a list is read page by page

A server gives a list in pages. What a page says about the next one is a text of the server's own,
which may be anything; if there is none, or an empty one, the list has come to its end. A page may
be empty and go on nevertheless. `Chain` tells what a server answers from one page on, up to the end
of the list or the page that is not given.

For every such server the list is read with one request for each page, in their order. Each carries
the same conditions and the token of the page before. What is found are the items of all pages, one
after the other, and if a page is not given there are no items at all.

* `IsPage`: the body of a page, and `ofJson?_of_isPage`: how it is read.
* `asks_of_pageRequest`: what the server reads from the request for a page.
* `Chain.outcome_listFrom` and `Chain.requests_listFrom`: the pages from one on, behind the items
  found before, by induction on the chain.
* `exists_chain_or_length_requests`: there is such a chain for every server, or no end in sight.
* `readsPages_of_chain`: what becomes of a list.
-/

set_option autoImplicit false

namespace IngressController.Api

open Object

/-! ### Pages as a server gives them -/

/-- A page as a server gives it: its items, and the text by which it asks for the next page. -/
structure GivenPage (α : Type) where
  items : List α
  next : Option String

namespace GivenPage

variable {α : Type}

/-- A page is the last one if it has no such text, or an empty one. -/
def IsLast (page : GivenPage α) : Prop :=
  page.next = none ∨ page.next = some ""

/-- The token for the page that follows, if there is one. -/
def token? (page : GivenPage α) : Option String :=
  page.next.filter (· ≠ "")

/-- The last page is not followed by another one. -/
theorem token?_of_isLast {page : GivenPage α} (h : page.IsLast) : page.token? = none := by
  rw [token?]
  rcases h with h | h <;> rw [h] <;> rfl

/-- A text that is not empty is the token for the page that follows. -/
theorem token?_of_next {page : GivenPage α} {next : String} (h : page.next = some next)
    (hne : next ≠ "") : page.token? = some next := by
  rw [token?, h, Option.filter_some, if_pos (by simpa using hne)]

/-- A page that is not the last one has a text that is not empty. -/
theorem exists_next {page : GivenPage α} (h : ¬page.IsLast) :
    ∃ next, page.next = some next ∧ next ≠ "" := by
  rw [IsLast, not_or] at h
  cases hnext : page.next with
  | none => exact absurd hnext h.1
  | some next => exact ⟨next, rfl, fun hempty => h.2 (by rw [hnext, hempty])⟩

end GivenPage

section Read

variable {α : Type} {read : Json → Option α} {body : Json} {reply : Reply} {page : GivenPage α}

/-- The body of a page: an object with a list of items, or with `null` for no items, and with what
it says about the next page in its metadata, if it has any. -/
structure IsPage (read : Json → Option α) (body : Json) (page : GivenPage α) : Prop where
  object : body.obj?.isSome = true
  items : given? body "items" = some .null ∧ page.items = []
    ∨ ∃ value, given? body "items" = some value ∧ Object.list read value = some page.items
  next : defaulted body "metadata" none readToken? = some page.next

/-- A page is read from a body of this kind, and with the token for the page that follows. -/
theorem ofJson?_of_isPage (h : IsPage read body page) :
    Page.ofJson? read body = some { items := page.items, token := page.token? } := by
  obtain ⟨members, hmembers⟩ := Option.isSome_iff_exists.mp h.object
  rw [Page.ofJson?, hmembers, h.next]
  obtain ⟨hgiven, hitems⟩ | ⟨value, hgiven, hitems⟩ := h.items
  · rw [hgiven, hitems]
    rfl
  · have hnull : value ≠ .null := by
      rintro rfl
      cases hitems
    rw [hgiven]
    cases value with
    | null => exact absurd rfl hnull
    | bool b => cases hitems
    | int i => cases hitems
    | str text => cases hitems
    | arr values =>
        show (do let items ← Object.list read (.arr values); _) = _
        rw [hitems]
        rfl
    | obj members => cases hitems

/-- No other body is read as a page. -/
theorem exists_isPage_of_ofJson? {page' : Page α} (h : Page.ofJson? read body = some page') :
    ∃ page, IsPage read body page := by
  simp only [Page.ofJson?, Option.bind_eq_bind, Option.bind_eq_some_iff] at h
  obtain ⟨members, hmembers, value, hgiven, h⟩ := h
  have hobject : body.obj?.isSome = true := by
    rw [hmembers]
    rfl
  cases value with
  | null =>
      obtain ⟨items, -, h⟩ := Option.bind_eq_some_iff.mp h
      obtain ⟨next, hnext, -⟩ := Option.bind_eq_some_iff.mp h
      exact ⟨⟨[], next⟩, hobject, .inl ⟨hgiven, rfl⟩, hnext⟩
  | bool _ | int _ | str _ | arr _ | obj _ =>
      obtain ⟨items, hitems, h⟩ := Option.bind_eq_some_iff.mp h
      obtain ⟨next, hnext, -⟩ := Option.bind_eq_some_iff.mp h
      exact ⟨⟨items, next⟩, hobject, .inr ⟨_, hgiven, hitems⟩, hnext⟩

/-- A reply gives a page. -/
def Gives (read : Json → Option α) (reply : Reply) (page : GivenPage α) : Prop :=
  ∃ response, reply = .ok response ∧ response.isError = false ∧ IsPage read response.body page

/-- Such a reply is read as this page. -/
theorem readReply_of_gives (h : Gives read reply page) :
    readReply (Page.ofJson? read) reply
      = .ok { items := page.items, token := page.token? } := by
  obtain ⟨response, rfl, hfine, hpage⟩ := h
  rw [readReply, hfine, ofJson?_of_isPage hpage]
  rfl

/-- Every reply gives a page, or it is a failure. -/
theorem gives_or_fails (read : Json → Option α) (reply : Reply) :
    (∃ page, Gives read reply page)
      ∨ ∃ failure, readReply (Page.ofJson? read) reply = .error failure := by
  cases hread : readReply (Page.ofJson? read) reply with
  | error failure => exact .inr ⟨failure, rfl⟩
  | ok page' =>
      refine .inl ?_
      cases reply with
      | error reason => cases hread
      | ok response =>
          rw [readReply] at hread
          split at hread
          · cases hread
          · next hfine =>
              cases hbody : Page.ofJson? read response.body with
              | none => rw [hbody] at hread; cases hread
              | some page' =>
                  obtain ⟨page, hpage⟩ := exists_isPage_of_ofJson? hbody
                  exact ⟨page, response, rfl, by simpa using hfine, hpage⟩

end Read

/-! ### The requests for pages -/

section Request

variable {list selector : String} {token : Option String} {r : Request}

/-- The request for the page for a token, or for the first page, if it has a place. -/
def pageRequest (list selector : String) (token : Option String) : Except Cluster.Flaw Request :=
  (pageLocation list selector token).map ({ method := .get, location := · })

/-- The request for a page has the place of this page. -/
theorem exists_location_of_pageRequest (h : pageRequest list selector token = .ok r) :
    ∃ location, pageLocation list selector token = .ok location
      ∧ r = { method := .get, location } := by
  rw [pageRequest] at h
  cases hlocation : pageLocation list selector token with
  | error flaw => rw [hlocation] at h; cases h
  | ok location => rw [hlocation] at h; exact ⟨location, rfl, (Except.ok.inj h).symm⟩

/-- A page without a place has no request. -/
theorem pageLocation_of_pageRequest {flaw : Cluster.Flaw}
    (h : pageRequest list selector token = .error flaw) :
    pageLocation list selector token = .error flaw := by
  rw [pageRequest] at h
  cases hlocation : pageLocation list selector token with
  | error flaw => rw [hlocation] at h; cases h; rfl
  | ok location => rw [hlocation] at h; cases h

/-- What the server reads from the request for a page: which list, how many items a page is to hold,
which of them are to be listed, and which page, if it is not the first one. -/
structure Asks (list selector : String) (token : Option String) (r : Request) : Prop where
  reads : r.method = .get ∧ r.body = none
  path : r.location.path = list
  limit : r.location.value? "limit" = some "100"
  selector : r.location.value? "labelSelector" = some selector
  token : r.location.value? "continue" = token
  nothingElse : ∀ name, name ∉ ["limit", "labelSelector", "continue"] →
    r.location.value? name = none

/-- The names that the parameters of a page have. -/
theorem mem_names_of_mem_parameters {size : String} {p : String × String}
    (h : p ∈ [("limit", size), ("labelSelector", selector)] ++
      token.toList.map (("continue", ·))) :
    p.1 ∈ ["limit", "labelSelector", "continue"] := by
  rcases List.mem_append.mp h with h | h
  · rcases List.mem_pair.mp h with rfl | rfl <;> simp
  · obtain ⟨token, -, rfl⟩ := List.mem_map.mp h
    simp

/-- A page is asked to hold a hundred items. -/
theorem decimal_pageSize : Text.decimal pageSize = "100" := by
  rw [← String.toList_inj, Text.decimal, Text.decimalDigits_eq_toDigits]
  decide

/-- The server reads from the request for a page what the page was asked for with. -/
theorem asks_of_pageRequest (hlist : IsPath list) (h : pageRequest list selector token = .ok r) :
    Asks list selector token r := by
  obtain ⟨location, hlocation, rfl⟩ := exists_location_of_pageRequest h
  have hnames : ∀ p ∈ [("limit", Text.decimal pageSize), ("labelSelector", selector)] ++
      token.toList.map (("continue", ·)), IsParameterName p.1 := fun p hp =>
    (by decide : ∀ name ∈ ["limit", "labelSelector", "continue"], IsParameterName name)
      p.1 (mem_names_of_mem_parameters hp)
  have hvalue := Location.value?_of_withParameters hlist hnames hlocation
  refine ⟨⟨rfl, rfl⟩, ?_, ?_, hvalue _, ?_, ?_⟩
  · rw [Location.eq_of_withParameters hlist hnames hlocation]
  · rw [hvalue, decimal_pageSize]
    rfl
  · rw [hvalue]
    cases token <;> rfl
  · intro name hname
    rw [hvalue, List.lookup_eq_none_iff]
    rintro p hp
    rw [bne_iff_ne]
    rintro rfl
    exact hname (mem_names_of_mem_parameters hp)

end Request

/-! ### Chains of pages -/

/-- How the pages of a list come to their end: with the last page, with a request that fails, or
with a token for which there is no place. -/
inductive Ending where
  | whole
  | failed (failure : Cluster.Failure)
  | unsent (flaw : Cluster.Flaw)

namespace Ending

variable {α : Type}

/-- What is found where the pages come to this end. -/
def outcome (items : List α) : Ending → Except Cluster.Failure (List α)
  | whole => .ok items
  | failed failure => .error failure
  | unsent flaw => .error (.unaddressable flaw)

/-- The tokens that requests carry, out of those for which pages are wanted: all, or all but the
one for which there is no place. -/
def carried : Ending → List (Option String) → List (Option String)
  | whole, tokens => tokens
  | failed _, tokens => tokens
  | unsent _, tokens => tokens.dropLast

/-- Whether the first of several tokens is carried does not depend on the end. -/
theorem carried_cons_cons (ending : Ending) (first second : Option String)
    (tokens : List (Option String)) :
    ending.carried (first :: second :: tokens) = first :: ending.carried (second :: tokens) := by
  cases ending <;> rfl

end Ending

/-- The tokens of the pages of a list: the first page has none, and each further one has the token
of the page before. -/
def tokens {α : Type} (first : Option String) (pages : List (GivenPage α)) :
    List (Option String) :=
  first :: (pages.filterMap GivenPage.token?).map some

section Tokens

variable {α : Type} {first : Option String} {page : GivenPage α}

/-- After the last page there is no token. -/
theorem tokens_of_isLast (h : page.IsLast) : tokens first [page] = [first] := by
  rw [tokens, List.filterMap_cons_none (GivenPage.token?_of_isLast h)]
  rfl

/-- The token of a page is that of the next one. -/
theorem tokens_of_next {next : String} {pages : List (GivenPage α)} (h : page.next = some next)
    (hne : next ≠ "") : tokens first (page :: pages) = first :: tokens (some next) pages := by
  rw [tokens, List.filterMap_cons_some (GivenPage.token?_of_next h hne)]
  rfl

end Tokens

section Chain

variable {α σ : Type}

/-- What a server answers, in a state that its answers may change, from the page for a token on:
one page after the other, and how they come to their end. -/
inductive Chain (answers : Program.Answers (fun _ : Request => Reply) σ) (read : Json → Option α)
    (list selector : String) :
    Option String → σ → List (GivenPage α) → Ending → Prop where
  /-- The last page. -/
  | last {token : Option String} {s : σ} {r : Request} {page : GivenPage α}
      (request : pageRequest list selector token = .ok r)
      (gives : Gives read ((answers r).run s).value.1 page) (last : page.IsLast) :
      Chain answers read list selector token s [page] .whole
  /-- A page that says which one follows, and the pages from that one on. -/
  | goesOn {token : Option String} {s : σ} {r : Request} {page : GivenPage α} {next : String}
      {pages : List (GivenPage α)} {ending : Ending}
      (request : pageRequest list selector token = .ok r)
      (gives : Gives read ((answers r).run s).value.1 page) (follows : page.next = some next)
      (notLast : next ≠ "")
      (rest : Chain answers read list selector (some next) ((answers r).run s).value.2 pages
        ending) :
      Chain answers read list selector token s (page :: pages) ending
  /-- A page that is not given. -/
  | fails {token : Option String} {s : σ} {r : Request} {failure : Cluster.Failure}
      (request : pageRequest list selector token = .ok r)
      (fails : readReply (Page.ofJson? read) ((answers r).run s).value.1 = .error failure) :
      Chain answers read list selector token s [] (.failed failure)
  /-- A page that cannot be asked for. -/
  | unsent {token : Option String} {s : σ} {flaw : Cluster.Flaw}
      (request : pageRequest list selector token = .error flaw) :
      Chain answers read list selector token s [] (.unsent flaw)

variable {answers : Program.Answers (fun _ : Request => Reply) σ} {read : Json → Option α}
  {list selector : String} {token : Option String} {s : σ} {r : Request}
  {pages : List (GivenPage α)} {ending : Ending}

/-- What is done with a page, or with the failure that stands in its place. -/
def goOn (read : Json → Option α) (list selector : String) (limit : Nat) (found : List α) :
    Except Cluster.Failure (Page α) → Exchange (Except Cluster.Failure (List α))
  | .error failure => return .error failure
  | .ok page =>
    match page.token with
    | none => return .ok (found ++ page.items)
    | some token => listFrom read list selector limit (some token) (found ++ page.items)

variable (limit : Nat) (found : List α)

/-- The pages from one on are this page and what is done with it. -/
theorem listFrom_succ :
    listFrom read list selector (limit + 1) token found
      = getPage read list selector token >>= goOn read list selector limit found := by
  rw [listFrom]
  refine congrArg _ (funext fun reply => ?_)
  rcases reply with failure | ⟨items, token⟩
  · rfl
  · cases token <;> rfl

/-- A page that has a place is asked for with one request, and then its reply decides. -/
theorem listFrom_of_ok (h : pageRequest list selector token = .ok r) :
    listFrom read list selector (limit + 1) token found
      = .ask r fun reply =>
          goOn read list selector limit found (readReply (Page.ofJson? read) reply) := by
  obtain ⟨location, hlocation, rfl⟩ := exists_location_of_pageRequest h
  rw [listFrom_succ, getPage, hlocation]
  rfl

/-- A page that has no place is not asked for. -/
theorem listFrom_of_error {flaw : Cluster.Flaw}
    (h : pageRequest list selector token = .error flaw) :
    listFrom read list selector (limit + 1) token found
      = return .error (.unaddressable flaw) := by
  rw [listFrom_succ, getPage, pageLocation_of_pageRequest h]
  rfl

variable {limit}

/-- The items of the pages from one on stand behind those found before, and if the pages do not come
to the end of the list there are none. -/
theorem Chain.outcome_listFrom (h : Chain answers read list selector token s pages ending)
    (hlimit : (tokens token pages).length ≤ limit + 1) :
    (((listFrom read list selector (limit + 1) token found).run answers).run s).value.1
      = ending.outcome (found ++ pages.flatMap (·.items)) := by
  induction h generalizing limit found with
  | last request gives last =>
      rw [listFrom_of_ok _ _ request, Program.value_run_ask, readReply_of_gives gives,
        GivenPage.token?_of_isLast last, List.flatMap_singleton]
      rfl
  | goesOn request gives follows notLast rest ih =>
      -- The page leaves room for those that follow it, of which there is at least one.
      rw [tokens_of_next follows notLast] at hlimit
      obtain ⟨limit, rfl⟩ := Nat.exists_eq_add_of_le' (Nat.le_of_lt_succ hlimit)
      rw [listFrom_of_ok _ _ request, Program.value_run_ask, readReply_of_gives gives,
        GivenPage.token?_of_next follows notLast, List.flatMap_cons, ← List.append_assoc]
      exact ih _ (Nat.le_of_succ_le_succ hlimit)
  | fails request fails =>
      rw [listFrom_of_ok _ _ request, Program.value_run_ask, fails]
      rfl
  | unsent request =>
      rw [listFrom_of_error _ _ request]
      rfl

/-- The requests for the pages from one on carry the token for it and then those of the pages. -/
theorem Chain.requests_listFrom (h : Chain answers read list selector token s pages ending)
    (hlimit : (tokens token pages).length ≤ limit + 1) :
    List.Forall₂ (fun token r => pageRequest list selector token = .ok r)
      (ending.carried (tokens token pages))
      ((listFrom read list selector (limit + 1) token found).requests answers s) := by
  induction h generalizing limit found with
  | last request gives last =>
      rw [listFrom_of_ok _ _ request, Program.requests, readReply_of_gives gives,
        GivenPage.token?_of_isLast last, tokens_of_isLast last]
      exact .cons request .nil
  | goesOn request gives follows notLast rest ih =>
      rw [tokens_of_next follows notLast] at hlimit ⊢
      obtain ⟨limit, rfl⟩ := Nat.exists_eq_add_of_le' (Nat.le_of_lt_succ hlimit)
      rw [listFrom_of_ok _ _ request, Program.requests, readReply_of_gives gives,
        GivenPage.token?_of_next follows notLast, tokens, Ending.carried_cons_cons]
      exact .cons request (ih _ (Nat.le_of_succ_le_succ hlimit))
  | fails request fails =>
      rw [listFrom_of_ok _ _ request, Program.requests, fails]
      exact .cons request .nil
  | unsent request =>
      rw [listFrom_of_error _ _ request]
      exact .nil

/-- If the pages come to the end of the list, there are as many tokens as pages. -/
theorem Chain.length_tokens (h : Chain answers read list selector token s pages ending)
    (hwhole : ending = .whole) : (tokens token pages).length = pages.length := by
  induction h with
  | last request gives last =>
      rw [tokens_of_isLast last]
      rfl
  | goesOn request gives follows notLast rest ih =>
      rw [tokens_of_next follows notLast]
      exact congrArg (· + 1) (ih hwhole)
  | fails request fails => cases hwhole
  | unsent request => cases hwhole

/-- The pages of every server come to an end within the limit, or there are as many requests as the
limit allows for. -/
theorem exists_chain_or_length_requests (answers : Program.Answers (fun _ : Request => Reply) σ)
    (read : Json → Option α) (list selector : String) (limit : Nat) (token : Option String)
    (s : σ) (found : List α) :
    (∃ pages ending, Chain answers read list selector token s pages ending
        ∧ (tokens token pages).length ≤ limit)
      ∨ ((listFrom read list selector limit token found).requests answers s).length = limit := by
  induction limit generalizing token s found with
  | zero => exact .inr rfl
  | succ limit ih =>
      cases hrequest : pageRequest list selector token with
      | error flaw => exact .inl ⟨[], _, .unsent hrequest, Nat.succ_pos _⟩
      | ok r =>
          rw [listFrom_of_ok _ _ hrequest, Program.requests, List.length_cons]
          obtain ⟨page, hgives⟩ | ⟨failure, hfails⟩ :=
            gives_or_fails read ((answers r).run s).value.1
          · rw [readReply_of_gives hgives]
            by_cases hlast : page.IsLast
            · refine .inl ⟨[page], _, .last hrequest hgives hlast, ?_⟩
              rw [tokens_of_isLast hlast]
              exact Nat.succ_pos _
            · obtain ⟨next, hnext, hne⟩ := GivenPage.exists_next hlast
              rw [GivenPage.token?_of_next hnext hne]
              -- The pages that follow decide, with one less to be allowed for.
              refine (ih (some next) _ (found ++ page.items)).imp ?_ (congrArg (· + 1))
              rintro ⟨pages, ending, hchain, hlimit⟩
              refine ⟨page :: pages, ending, .goesOn hrequest hgives hnext hne hchain, ?_⟩
              rw [tokens_of_next hnext hne]
              exact Nat.succ_le_succ hlimit
          · exact .inl ⟨[], _, .fails hrequest hfails, Nat.succ_pos _⟩

end Chain

/-! ### Whole lists -/

section List

variable {α σ : Type}

/-- A list is read page by page. -/
structure ReadsPages (answers : Program.Answers (fun _ : Request => Reply) σ)
    (read : Json → Option α) (list selector : String) (limit : Nat) (s : σ)
    (pages : List (GivenPage α)) (ending : Ending) : Prop where
  /-- The items of all pages are found, one page after the other; if a page is not given, there are
  no items but the failure to give it. -/
  outcome : (((listObjects read list selector limit).run answers).run s).value.1
    = ending.outcome (pages.flatMap (·.items))
  /-- The requests are those for the first page and for each token that a page gives. -/
  requests : List.Forall₂ (fun token r => pageRequest list selector token = .ok r)
    (ending.carried (tokens none pages))
    ((listObjects read list selector limit).requests answers s)
  /-- There is one request for each page. -/
  onePerPage : ending = .whole →
    ((listObjects read list selector limit).requests answers s).length = pages.length
  /-- Every request asks for the same list, with the same selector and the same number of items. -/
  asks : IsPath list → List.Forall₂ (Asks list selector) (ending.carried (tokens none pages))
    ((listObjects read list selector limit).requests answers s)

/-- Whatever a server says about the pages of a list, if they come to an end within the limit. -/
theorem readsPages_of_chain {answers : Program.Answers (fun _ : Request => Reply) σ}
    {read : Json → Option α} {list selector : String} {limit : Nat} {s : σ}
    {pages : List (GivenPage α)} {ending : Ending}
    (hchain : Chain answers read list selector none s pages ending)
    (hlimit : (tokens none pages).length ≤ limit) :
    ReadsPages answers read list selector limit s pages ending := by
  obtain ⟨limit, rfl⟩ := Nat.exists_eq_add_of_le' (Nat.one_le_of_lt hlimit)
  have hrequests := hchain.requests_listFrom [] hlimit
  exact {
    outcome := hchain.outcome_listFrom [] hlimit
    requests := hrequests
    onePerPage := by
      rintro rfl
      exact hrequests.length_eq.symm.trans (hchain.length_tokens rfl)
    asks := fun hlist => hrequests.imp fun _ _ h => asks_of_pageRequest hlist h }

end List

/-! ### Three pages -/

section Script

/-- The body of a page of texts. -/
def textPage (page : GivenPage String) : Json :=
  .obj [("metadata", .obj (page.next.toList.map fun next => ("continue", .str next))),
    ("items", .arr (page.items.map Json.str))]

/-- Pages of texts as the responses of a server, which then refuses connections. -/
def textPages (pages : List (GivenPage String)) : Script where
  responses := pages.map fun page => { status := 200, body := textPage page }

/-- A page of texts is given by its body. -/
theorem gives_textPage (page : GivenPage String) :
    Gives Json.str? (.ok { status := 200, body := textPage page }) page := by
  have hitems : ∀ items : List String, (items.map Json.str).mapM Json.str? = some items := by
    intro items
    induction items with
    | nil => rfl
    | cons item items ih =>
        rw [List.map_cons, List.mapM_cons, ih]
        rfl
  refine ⟨_, rfl, rfl, rfl, .inr ⟨_, rfl, hitems page.items⟩, ?_⟩
  obtain ⟨items, next⟩ := page
  cases next <;> rfl

/-- Three pages, of which the second is empty and the last one names the empty token. -/
def threePages : List (GivenPage String) :=
  [⟨["a", "b"], some "p=2&c"⟩, ⟨[], some "ä/3"⟩, ⟨["c"], some ""⟩]

/-- Three pages are read with three requests, and if the connection is lost before the last one
there are no items. -/
theorem readsPages_of_threePages :
    ReadsPages Script.answer Json.str? "/api/v1/pods" "app=front" 4 (textPages threePages)
        threePages .whole
      ∧ ReadsPages Script.answer Json.str? "/api/v1/pods" "app=front" 4
        (textPages (threePages.take 2)) (threePages.take 2)
        (.failed (.noAnswer "connection refused")) := by
  have hrequest : ∀ token ∈ [none, some "p=2&c", some "ä/3"],
      ∃ r, pageRequest "/api/v1/pods" "app=front" token = .ok r := by
    simp only [List.forall_mem_cons, pageRequest, pageLocation, decimal_pageSize]
    exact ⟨⟨_, rfl⟩, ⟨_, rfl⟩, ⟨_, rfl⟩, by simp⟩
  obtain ⟨first, hfirst⟩ := hrequest none (by simp)
  obtain ⟨second, hsecond⟩ := hrequest (some "p=2&c") (by simp)
  obtain ⟨third, hthird⟩ := hrequest (some "ä/3") (by simp)
  refine ⟨readsPages_of_chain ?_ (by decide), readsPages_of_chain ?_ (by decide)⟩
  · exact .goesOn hfirst (gives_textPage _) rfl (by decide) <|
      .goesOn hsecond (gives_textPage _) rfl (by decide) <|
      .last hthird (gives_textPage ⟨["c"], some ""⟩) (.inr rfl)
  · exact .goesOn hfirst (gives_textPage _) rfl (by decide) <|
      .goesOn hsecond (gives_textPage _) rfl (by decide) <|
      .fails hthird rfl

end Script

end IngressController.Api
