import Mathlib.Tactic.Ring
import Mathlib.Data.List.Basic
import Mathlib.Algebra.GroupWithZero.Nat

/-! Listings served in pages. Each page but the last names the token under
which the next one is asked for. -/
namespace Storage

/-- The pages of one listing, from the first one on. -/
inductive Listing (Item Token : Type) where
  | last (page : List Item)
  | more (page : List Item) (token : Token) (rest : Listing Item Token)

namespace Listing

variable {Item Token : Type}

/-- The objects of the first page. -/
def page : Listing Item Token → List Item
  | last page => page
  | more page _ _ => page

/-- The token that the first page hands out. -/
def next : Listing Item Token → Option Token
  | last _ => none
  | more _ token _ => some token

/-- All objects, page after page. -/
def objects : Listing Item Token → List Item
  | last page => page
  | more page _ rest => page ++ rest.objects

def tokens : Listing Item Token → List Token
  | last _ => []
  | more _ token rest => token :: rest.tokens

/-- Served page by page from a token on, the listing is this one. One request
is answered with the objects of a page and the token of the next page. -/
inductive Served (serve : Option Token → List Item × Option Token) :
    Option Token → Listing Item Token → Prop
  | last {token : Option Token} {page : List Item} (h : serve token = (page, none)) :
      Served serve token (last page)
  | more {token : Option Token} {page : List Item} {next : Token} {rest : Listing Item Token}
      (h : serve token = (page, some next)) (hRest : Served serve (some next) rest) :
      Served serve token (more page next rest)

/-- The tokens that a walk from the first page on asks for. -/
inductive Asked (serve : Option Token → List Item × Option Token) (first : Option Token) :
    Option Token → Prop
  | first : Asked serve first first
  | next {token : Option Token} {next : Token} (h : Asked serve first token)
      (hNext : (serve token).2 = some next) : Asked serve first (some next)

variable {serve : Option Token → List Item × Option Token} {token first : Option Token}
  {listing : Listing Item Token}

/-- Whoever asks for the first page, and for the next page after each page,
meets every object. -/
theorem Served.covered (h : Served serve token listing) (asked : Option Token → Prop)
    (hFirst : asked token)
    (hNext : ∀ token next, asked token → (serve token).2 = some next → asked (some next)) :
    ∀ item ∈ listing.objects, ∃ token, asked token ∧ item ∈ (serve token).1 := by
  induction h with
  | @last token page h =>
      intro item hItem
      exact ⟨token, hFirst, by rw [h]; exact hItem⟩
  | @more token page next rest h _ ih =>
      intro item hItem
      rcases List.mem_append.mp hItem with hPage | hRest
      · exact ⟨token, hFirst, by rw [h]; exact hPage⟩
      · exact ih (hNext token next hFirst (by rw [h])) item hRest

/-- What is served from the next token on is the listing without its first page. -/
theorem Served.next (h : Served serve token listing) {next : Token}
    (hNext : (serve token).2 = some next) :
    ∃ page rest, listing = .more page next rest ∧ Served serve (some next) rest := by
  cases h with
  | last h => simp [h] at hNext
  | more h hRest =>
      cases (congrArg Prod.snd h).symm.trans hNext
      exact ⟨_, _, rfl, hRest⟩

/-- A walk meets nothing but objects of the listing. -/
theorem Served.page_subset (h : Served serve first listing) (hAsked : Asked serve first token) :
    ∀ item ∈ (serve token).1, item ∈ listing.objects := by
  suffices hTail : ∃ tail, Served serve token tail ∧ ∀ item ∈ tail.objects, item ∈ listing.objects by
    obtain ⟨tail, hServed, hSubset⟩ := hTail
    intro item hItem
    refine hSubset item ?_
    cases hServed with
    | last h =>
        rw [h] at hItem
        exact hItem
    | more h _ =>
        rw [h] at hItem
        exact List.mem_append_left _ hItem
  induction hAsked with
  | first => exact ⟨listing, h, fun _ hItem => hItem⟩
  | @next token next _ hNext ih =>
      obtain ⟨tail, hServed, hSubset⟩ := ih
      obtain ⟨page, rest, rfl, hRest⟩ := hServed.next hNext
      exact ⟨rest, hRest, fun item hItem => hSubset item (List.mem_append_right _ hItem)⟩

/-- The number of pages. -/
def length : Listing Item Token → Nat
  | last _ => 1
  | more _ _ rest => rest.length + 1

/-- From a token on one listing is served at most. -/
theorem Served.unique {listing' : Listing Item Token} (h : Served serve token listing)
    (h' : Served serve token listing') : listing = listing' := by
  induction h generalizing listing' with
  | last h =>
      cases h' with
      | last h' => cases h.symm.trans h'; rfl
      | more h' _ => cases h.symm.trans h'
  | more h _ ih =>
      cases h' with
      | last h' => cases h.symm.trans h'
      | more h' hRest' =>
          cases h.symm.trans h'
          rw [ih hRest']

theorem Served.tail (h : Served serve token listing) {next : Token}
    (hNext : (serve token).2 = some next) :
    ∃ rest, Served serve (some next) rest ∧ listing.length = rest.length + 1 := by
  obtain ⟨page, rest, rfl, hRest⟩ := h.next hNext
  exact ⟨rest, hRest, rfl⟩

/-- From a token that is asked for, a part of the listing is served, and all of
it only from the first one. -/
theorem Asked.served (h : Served serve first listing) (hAsked : Asked serve first token) :
    ∃ tail, Served serve token tail ∧ (token = first ∨ tail.length < listing.length) := by
  induction hAsked with
  | first => exact ⟨listing, h, Or.inl rfl⟩
  | next _ hNext ih =>
      obtain ⟨tail, hServed, hLess⟩ := ih
      obtain ⟨rest, hRest, hLength⟩ := hServed.tail hNext
      refine ⟨rest, hRest, Or.inr ?_⟩
      rcases hLess with rfl | hLess
      · rw [hServed.unique h] at hLength
        omega
      · omega

/-- Different tokens that are asked for stand at different places. -/
theorem Asked.eq_of_length (h : Served serve first listing) {token token' : Option Token}
    (hAsked : Asked serve first token) (hAsked' : Asked serve first token')
    {tail tail' : Listing Item Token} (hTail : Served serve token tail)
    (hTail' : Served serve token' tail') (hLength : tail.length = tail'.length) : token = token' := by
  induction hAsked generalizing token' tail tail' with
  | first =>
      obtain ⟨part, hPart, hFirst | hLess⟩ := hAsked'.served h
      · exact hFirst.symm
      · rw [hPart.unique hTail', ← hLength, hTail.unique h] at hLess
        exact absurd hLess (Nat.lt_irrefl _)
  | next hPrior hNext ih =>
      obtain ⟨whole, hWhole, _⟩ := hPrior.served h
      obtain ⟨rest, hRest, hMore⟩ := hWhole.tail hNext
      rw [hRest.unique hTail] at hMore
      cases hAsked' with
      | first =>
          obtain ⟨_, hPart, hFirst | hLess⟩ := (hPrior.next hNext).served h
          · exact hFirst
          · rw [hPart.unique hTail, hLength, hTail'.unique h] at hLess
            exact absurd hLess (Nat.lt_irrefl _)
      | next hPrior' hNext' =>
          obtain ⟨whole', hWhole', _⟩ := hPrior'.served h
          obtain ⟨rest', hRest', hMore'⟩ := hWhole'.tail hNext'
          rw [hRest'.unique hTail'] at hMore'
          cases ih hPrior' hWhole hWhole' (by omega)
          cases hNext.symm.trans hNext'
          rfl

/-- A page is announced by one page only. -/
theorem Asked.next_injective (h : Served serve first listing) {token token' : Option Token}
    (hAsked : Asked serve first token) (hAsked' : Asked serve first token') {next : Token}
    (hNext : (serve token).2 = some next) (hNext' : (serve token').2 = some next) :
    token = token' := by
  obtain ⟨whole, hWhole, _⟩ := hAsked.served h
  obtain ⟨whole', hWhole', _⟩ := hAsked'.served h
  obtain ⟨rest, hRest, hMore⟩ := hWhole.tail hNext
  obtain ⟨rest', hRest', hMore'⟩ := hWhole'.tail hNext'
  rw [hRest.unique hRest'] at hMore
  exact hAsked.eq_of_length h hAsked' hWhole hWhole' (hMore.trans hMore'.symm)

/-- The places of a listing: its first page and the pages its tokens announce. -/
def places (first : Option Token) (listing : Listing Item Token) : List (Option Token) :=
  first :: listing.tokens.map some

theorem length_places (first : Option Token) (listing : Listing Item Token) :
    (listing.places first).length = listing.length := by
  have hTokens : listing.tokens.length + 1 = listing.length := by
    induction listing with
    | last page => rfl
    | more page token rest ih =>
        unfold tokens length
        rw [List.length_cons, ih]
  rw [places, List.length_cons, List.length_map, hTokens]

/-- A walk asks for places of the listing only. -/
theorem Asked.mem_places (h : Served serve first listing) (hAsked : Asked serve first token) :
    token ∈ listing.places first := by
  suffices hTail : ∃ tail, Served serve token tail ∧
      ∀ place ∈ tail.places token, place ∈ listing.places first by
    obtain ⟨tail, _, hSubset⟩ := hTail
    exact hSubset token List.mem_cons_self
  induction hAsked with
  | first => exact ⟨listing, h, fun _ hm => hm⟩
  | @next token next _ hNext ih =>
      obtain ⟨tail, hServed, hSubset⟩ := ih
      obtain ⟨page, rest, rfl, hRest⟩ := hServed.next hNext
      exact ⟨rest, hRest, fun place hm => hSubset place (List.mem_cons_of_mem _ hm)⟩

/-- The cost of a page, where each next page is paid for this many times. -/
def cost (own : Option Token → Nat) : Listing Item Token → Nat
  | last _ => 1
  | more _ token rest => 1 + own (some token) * cost own rest

open Classical in
/-- The cost of the listing that is served from a token on. -/
noncomputable def costFrom (serve : Option Token → List Item × Option Token)
    (own : Option Token → Nat) (token : Option Token) : Nat :=
  if h : ∃ listing, Served serve token listing then h.choose.cost own else 0

theorem Served.costFrom_eq (h : Served serve token listing) (own : Option Token → Nat) :
    costFrom serve own token = listing.cost own := by
  have hSome : ∃ listing, Served serve token listing := ⟨listing, h⟩
  rw [costFrom, dif_pos hSome, hSome.choose_spec.unique h]

/-- The cost of a page is one and the costs of the page it announces. -/
theorem Asked.costFrom_eq (h : Served serve first listing) (hAsked : Asked serve first token)
    (own : Option Token → Nat) :
    costFrom serve own token = 1 + ((serve token).2.toList.map fun next =>
      own (some next) * costFrom serve own (some next)).sum := by
  obtain ⟨tail, hServed, _⟩ := hAsked.served h
  rw [hServed.costFrom_eq]
  cases hServed with
  | last h => rw [h]; rfl
  | more h hRest =>
      rw [h]
      simp [cost, hRest.costFrom_eq]

/-- The cost of a listing whose pages are all paid for equally often. -/
theorem cost_const (times : Nat) (listing : Listing Item Token) :
    times * listing.cost (fun _ => 1 + times) + 1 = (1 + times) ^ listing.length := by
  induction listing with
  | last page => simp [cost, length, Nat.add_comm]
  | more page token rest ih =>
      rw [cost, length, Nat.pow_succ, ← ih]
      ring

end Listing

end Storage
