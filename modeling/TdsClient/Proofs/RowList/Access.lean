import TdsClient.Proofs.RowList.Slice

/-!
# Accesses to a list of rows

A list of rows makes its rows when they are asked for, so that what it holds
depends on all accesses before. Nothing of this can be seen. Whatever is asked
for in whatever order, all answers are those of a list of rows that were there
from the start, each of them one object.

Which identity a row gets is not known before it is made. So the rows of that
list are those that have been made when all accesses are done, and others for
the places that nobody asked for. An access never takes back what was made
before, and so its answer can be read off the rows at the end.

## Main definitions

* `RowList.Access`, `RowList.answers` — accesses, and what they give.
* `RowList.Access.of` — what an access to given objects gives.
* `RowList.Grows` — what an access may change.

## Main results

* `answer_of_holds` — one access answers as the objects at the end do.
* `answers_of_objects` — so do all accesses, and the objects are told apart by their places.
-/

namespace TdsClient.RowList

/-! ## Accesses and their answers -/

/-- An access to a list of rows. An iteration that other accesses interrupt is an access by index
for each of its rows. -/
inductive Access
  | index (index : Int)
  | slice (start stop step : Option Int)
  | forward
  | backward
  | contains (object : RowObject)
  | count (object : RowObject)
  | find (object : RowObject) (start : Int) (stop : Option Int)

/-- What an access gives. -/
inductive Answer
  | object (result : Except RowError RowObject)
  | objects (result : Except RowError (List RowObject))
  | found (isFound : Bool)
  | number (number : Nat)
  | place (place : Option Nat)

/-- Makes an access. -/
def perform (l : RowList) : Access → Answer × RowList
  | .index index => ((l.get index).map .object id)
  | .slice start stop step => (l.slice start stop step).map .objects id
  | .forward => l.toList.map (.objects <| .ok ·) id
  | .backward => l.reversed.map (.objects <| .ok ·) id
  | .contains object => (l.contains object).map .found id
  | .count object => (l.count object).map .number id
  | .find object start stop => (l.find object start stop).map .place id

/-- What accesses give that are made one after the other. -/
def answers (l : RowList) : List Access → List Answer
  | [] => []
  | access :: rest => (l.perform access).1 :: answers (l.perform access).2 rest

/-- The list behind accesses. -/
def afterAll (l : RowList) (accesses : List Access) : RowList :=
  accesses.foldl (fun l access => (l.perform access).2) l

/-! ## Lists whose rows are all there -/

/-- The object at an index, counted from either end. -/
def objectAt (objects : List RowObject) (index : Int) : Except RowError RowObject :=
  if -objects.length ≤ index ∧ index < objects.length then
    (objects[(index % objects.length).toNat]?).elim (.error .outOfRange) .ok
  else .error .outOfRange

/-- What an access to given objects gives. -/
def Access.of (objects : List RowObject) : Access → Answer
  | .index k => .object (objectAt objects k)
  | .slice start stop step =>
    .objects <|
      if step = some 0 then .error .zeroStep
      else .ok ((selectedPlaces objects.length start stop (step.getD 1)).filterMap (objects[·]?))
  | .forward => .objects (.ok objects)
  | .backward => .objects (.ok objects.reverse)
  | .contains object => .found (objects.any (·.identity = object.identity))
  | .count object => .number (objects.countP (·.identity = object.identity))
  | .find object start stop =>
    .place <| (selectedPlaces objects.length (some start) stop 1).find? fun p =>
      objects[p]?.any (·.identity = object.identity)

/-! ## What an access may change -/

/-- Every place may have an object, and no two of those that have one have the same. -/
structure IsSound (l : RowList) : Prop where
  length : l.identities.length = l.size
  made : ∀ {p i : Nat}, l.identities[p]? = some (some i) → i < l.made
  distinct : ∀ {p q i : Nat}, l.identities[p]? = some (some i) → l.identities[q]? = some (some i) →
    p = q

/-- The rows are those from before, and the objects from before are still there. -/
structure Grows (l l' : RowList) : Prop where
  names : l'.names = l.names
  values : l'.values = l.values
  kept : ∀ {p i : Nat}, l.identities[p]? = some (some i) → l'.identities[p]? = some (some i)

theorem Grows.refl (l : RowList) : Grows l l := ⟨rfl, rfl, id⟩

theorem Grows.trans {l l' l'' : RowList} (h : Grows l l') (h' : Grows l' l'') : Grows l l'' :=
  ⟨h'.names.trans h.names, h'.values.trans h.values, fun hp => h'.kept (h.kept hp)⟩

theorem isSound_ofValues (names : List String) (values : List (List Value)) :
    (ofValues names values).IsSound := by
  have hnone : ∀ p i : Nat, (ofValues names values).identities[p]? ≠ some (some i) := by
    intro p i h
    have hmem : some i ∈ values.map fun _ => none := List.mem_of_getElem? h
    simp at hmem
  exact ⟨by simp [ofValues, size], fun h => absurd h (hnone _ _), fun h => absurd h (hnone _ _)⟩

variable {l : RowList}

/-- An object is made only where there is none, and gets a new identity. -/
theorem rowAt_cases (l : RowList) (place : Nat) :
    (∃ i, l.identities[place]? = some (some i) ∧ l.rowAt place = (⟨i, l.rowOf place⟩, l)) ∨
    ((∀ i, l.identities[place]? ≠ some (some i)) ∧ l.rowAt place =
      (⟨l.made, l.rowOf place⟩,
        { l with identities := l.identities.set place (some l.made), made := l.made + 1 })) := by
  rcases known : l.identities[place]? with _ | _ | i
  · exact .inr ⟨by simp, by rw [rowAt, known]⟩
  · exact .inr ⟨by simp, by rw [rowAt, known]⟩
  · exact .inl ⟨i, rfl, rowAt_of_made l place i known⟩

theorem grows_rowAt (l : RowList) (place : Nat) : Grows l (l.rowAt place).2 := by
  rcases rowAt_cases l place with ⟨i, -, heq⟩ | ⟨hnone, heq⟩
  · rw [heq]
    exact .refl l
  · rw [heq]
    refine ⟨rfl, rfl, fun {p i} hp => ?_⟩
    have hne : place ≠ p := by
      rintro rfl
      exact hnone i hp
    rw [List.getElem?_set_ne hne]
    exact hp

theorem IsSound.rowAt (hl : l.IsSound) (place : Nat) : (l.rowAt place).2.IsSound := by
  rcases rowAt_cases l place with ⟨i, -, heq⟩ | ⟨hnone, heq⟩
  · rwa [heq]
  · rw [heq]
    -- what stands at a place now is new or was there before
    have hnew : ∀ {p i : Nat}, (l.identities.set place (some l.made))[p]? = some (some i) →
        place = p ∧ i = l.made ∨ l.identities[p]? = some (some i) := by
      intro p i hp
      rw [List.getElem?_set] at hp
      split at hp
      next heq =>
        split at hp
        · cases hp
          exact .inl ⟨heq, rfl⟩
        · cases hp
      · exact .inr hp
    refine ⟨(List.length_set ..).trans hl.length, fun hp => ?_, fun hp hq => ?_⟩
    · rcases hnew hp with ⟨-, rfl⟩ | hp
      · exact Nat.lt_succ_self _
      · exact Nat.lt_succ_of_lt (hl.made hp)
    · rcases hnew hp with ⟨rfl, rfl⟩ | hp <;> rcases hnew hq with ⟨rfl, hi⟩ | hq
      · rfl
      · exact absurd (hl.made hq) (Nat.lt_irrefl _)
      · subst hi
        exact absurd (hl.made hp) (Nat.lt_irrefl _)
      · exact hl.distinct hp hq

/-! ## Objects that a list has or will have -/

/-- The objects of a list that has made some of them. -/
structure Holds (objects : List RowObject) (l : RowList) : Prop where
  length : objects.length = l.size
  row : ∀ {p : Nat} {o : RowObject}, objects[p]? = some o → o.row = l.rowOf p
  known : ∀ {p i : Nat}, l.identities[p]? = some (some i) →
    ∃ o, objects[p]? = some o ∧ o.identity = i

/-- The objects of a list are those of what it becomes. -/
theorem Holds.of_grows {objects : List RowObject} {l' : RowList} (h : Holds objects l')
    (hgrows : Grows l l') : Holds objects l where
  length := by rw [h.length, size, size, hgrows.values]
  row hp := by rw [h.row hp, rowOf, rowOf, hgrows.names, hgrows.values]
  known hp := h.known (hgrows.kept hp)

/-- An access to one place gives the object that it has, whatever is made later. -/
theorem rowAt_of_holds {objects : List RowObject} (hl : l.IsSound) {place : Nat}
    (hplace : place < l.size) (h : Holds objects (l.rowAt place).2) :
    objects[place]? = some (l.rowAt place).1 := by
  have hrow : (l.rowAt place).2.rowOf place = (l.rowAt place).1.row ∧
      (l.rowAt place).2.identities[place]? = some (some (l.rowAt place).1.identity) := by
    rcases rowAt_cases l place with ⟨i, hi, heq⟩ | ⟨-, heq⟩
    · rw [heq]
      exact ⟨rfl, hi⟩
    · rw [heq]
      refine ⟨rfl, ?_⟩
      rw [List.getElem?_set_self (hl.length ▸ hplace)]
  obtain ⟨o, ho, hidentity⟩ := h.known hrow.2
  have hsame : o.row = (l.rowAt place).1.row := (h.row ho).trans hrow.1
  rw [ho]
  cases o
  cases hidentity
  cases hsame
  rfl

/-! ## Several places -/

theorem grows_rowsAt (l : RowList) (places : List Nat) : Grows l (l.rowsAt places).2 := by
  induction places generalizing l with
  | nil => exact .refl l
  | cons place rest ih => exact (grows_rowAt l place).trans (ih _)

theorem IsSound.rowsAt (hl : l.IsSound) (places : List Nat) : (l.rowsAt places).2.IsSound := by
  induction places generalizing l with
  | nil => exact hl
  | cons place rest ih => exact ih (hl.rowAt place)

theorem size_of_grows {l' : RowList} (h : Grows l l') : l'.size = l.size :=
  congrArg List.length h.values

/-- Places give the objects that they have. -/
theorem rowsAt_of_holds {objects : List RowObject} (hl : l.IsSound) {places : List Nat}
    (hplaces : ∀ p ∈ places, p < l.size) (h : Holds objects (l.rowsAt places).2) :
    (l.rowsAt places).1 = places.filterMap (objects[·]?) := by
  induction places generalizing l with
  | nil => rfl
  | cons place rest ih =>
      obtain ⟨hplace, hrest⟩ := List.forall_mem_cons.1 hplaces
      have hsize : (l.rowAt place).2.size = l.size := size_of_grows (grows_rowAt l place)
      have hfirst : objects[place]? = some (l.rowAt place).1 :=
        rowAt_of_holds hl hplace (h.of_grows (grows_rowsAt _ rest))
      have hlater := ih (hl.rowAt place) (hsize.symm ▸ hrest) h
      rw [List.filterMap_cons_some hfirst, ← hlater]
      rfl

/-- What a search leaves is what is left when the places that it came to are asked for. -/
theorem exists_rowsAt_search (l : RowList) (identity : Nat) (stop : Option Int) (place : Nat) :
    ∃ asked, (l.search identity stop place).2 = (l.rowsAt asked).2 := by
  fun_induction search l identity stop place with
  | case1 l place => exact ⟨[place], rfl⟩
  | case2 l place _ _ ih =>
      obtain ⟨asked, hasked⟩ := ih
      exact ⟨place :: asked, hasked⟩
  | case3 l place => exact ⟨[], rfl⟩

theorem grows_search (l : RowList) (identity : Nat) (stop : Option Int) (place : Nat) :
    Grows l (l.search identity stop place).2 := by
  obtain ⟨asked, hasked⟩ := exists_rowsAt_search l identity stop place
  exact hasked ▸ grows_rowsAt l asked

/-- A search finds the first place from its start on, and in front of its stop, whose object has the
identity. -/
theorem search_of_holds {objects : List RowObject} (hl : l.IsSound) {identity : Nat}
    {stop : Option Int} {place : Nat} (h : Holds objects (l.search identity stop place).2) :
    (l.search identity stop place).1 = (List.range l.size).find? fun p =>
      (place ≤ p ∧ ∀ index ∈ stop, (p : Int) < index) ∧
        objects[p]?.any (·.identity = identity) := by
  fun_induction search l identity stop place with
  | case1 l place hinside hfound =>
      have hfirst := rowAt_of_holds hl hinside.2 h
      refine (List.find?_range_eq_some.2 ⟨?_, List.mem_range.2 hinside.2, ?_⟩).symm
      · simpa [hfirst, hfound, Option.all_eq_true] using hinside.1
      · intro p hp
        simp [Nat.not_le.2 hp]
  | case2 l place hinside hfound ih =>
      have hfirst := rowAt_of_holds hl hinside.2 (h.of_grows (grows_search _ identity stop _))
      rw [ih (hl.rowAt place) h, size_rowAt]
      -- the object that was looked at has another identity
      refine congrArg (List.find? · _) (funext fun p => ?_)
      by_cases hp : p = place
      · simp [hp, hfirst, hfound]
      · have hlater : place + 1 ≤ p ↔ place ≤ p := by omega
        simp only [hlater]
  | case3 l place hover =>
      refine (List.find?_eq_none.2 fun p hp => ?_).symm
      have hsize := List.mem_range.1 hp
      simp only [decide_eq_true_eq]
      rintro ⟨⟨hle, hstop⟩, -⟩
      refine hover ⟨(Option.all_eq_true ..).2 fun index hindex => decide_eq_true ?_, by omega⟩
      have hlt := hstop index hindex
      omega

/-! ## One access -/

/-- An index names the place that it leaves modulo the length. -/
theorem resolveIndex?_eq (length : Nat) (index : Int) :
    resolveIndex? length index =
      if -length ≤ index ∧ index < length then some (index % length).toNat else none := by
  unfold resolveIndex?
  by_cases hneg : index < 0
  · have hmod : -(length : Int) ≤ index → index % length = index + length := by
      intro hlow
      rw [← Int.add_emod_right, Int.emod_eq_of_lt (by omega) (by omega)]
    simp only [if_pos hneg]
    grind
  · have hmod : index < length → index % length = index := by
      intro hhigh
      exact Int.emod_eq_of_lt (by omega) hhigh
    simp only [if_neg hneg]
    grind

theorem get_of_place {index : Int} {place : Nat} (h : l.place index = .ok place) :
    l.get index = (.ok (l.rowAt place).1, (l.rowAt place).2) := by
  rw [get, h]

theorem get_of_error {index : Int} {e : RowError} (h : l.place index = .error e) :
    l.get index = (.error e, l) := by
  rw [get, h]

/-- Every access comes to some places, one after the other, and does nothing else to the list. -/
theorem exists_rowsAt_perform (l : RowList) (access : Access) :
    ∃ asked, (l.perform access).2 = (l.rowsAt asked).2 := by
  cases access with
  | index index =>
      rcases hplace : l.place index with e | place
      · exact ⟨[], by rw [perform, get_of_error hplace]; rfl⟩
      · exact ⟨[place], by rw [perform, get_of_place hplace]; rfl⟩
  | slice start stop step =>
      by_cases hstep : step = some 0
      · exact ⟨[], by rw [perform, slice, if_pos hstep]; rfl⟩
      · refine ⟨slicePlaces l.size start stop (step.getD 1), ?_⟩
        rw [perform, slice, if_neg hstep]
        rfl
  | forward => exact ⟨List.range l.size, rfl⟩
  | backward => exact ⟨(List.range l.size).reverse, rfl⟩
  | contains object => exact exists_rowsAt_search l _ _ _
  | count object => exact ⟨List.range l.size, rfl⟩
  | find object start stop => exact exists_rowsAt_search l _ _ _

theorem grows_perform (l : RowList) (access : Access) : Grows l (l.perform access).2 := by
  obtain ⟨asked, hasked⟩ := exists_rowsAt_perform l access
  exact hasked ▸ grows_rowsAt l asked

theorem IsSound.perform (hl : l.IsSound) (access : Access) : (l.perform access).2.IsSound := by
  obtain ⟨asked, hasked⟩ := exists_rowsAt_perform l access
  exact hasked ▸ hl.rowsAt asked

section

variable {objects : List RowObject}

theorem get_of_holds (hl : l.IsSound) {index : Int} (h : Holds objects (l.get index).2) :
    (l.get index).1 = objectAt objects index := by
  unfold objectAt
  have hsize : objects.length = l.size := by
    rw [h.length]
    exact size_of_grows (grows_perform l (.index index))
  by_cases hinside : -(l.size : Int) ≤ index ∧ index < l.size
  · have hplace : l.place index = .ok (index % l.size).toNat := by
      rw [place, resolveIndex?_eq, if_pos hinside]
    have hbelow : (index % l.size).toNat < l.size := by
      have hlow := Int.emod_nonneg index (b := l.size) (by omega)
      have hhigh := Int.emod_lt_of_pos index (b := l.size) (by omega)
      omega
    rw [get_of_place hplace] at h ⊢
    rw [hsize, if_pos hinside, rowAt_of_holds hl hbelow h]
    rfl
  · have hplace : l.place index = .error .outOfRange := by
      rw [place, resolveIndex?_eq, if_neg hinside]
    rw [get_of_error hplace, hsize, if_neg hinside]

theorem slice_of_holds (hl : l.IsSound) {start stop step : Option Int}
    (h : Holds objects (l.slice start stop step).2) :
    (l.slice start stop step).1 =
      if step = some 0 then .error .zeroStep
      else .ok ((selectedPlaces objects.length start stop (step.getD 1)).filterMap
        (objects[·]?)) := by
  have hsize : objects.length = l.size := by
    rw [h.length]
    exact size_of_grows (grows_perform l (.slice start stop step))
  by_cases hstep : step = some 0
  · rw [slice, if_pos hstep, if_pos hstep]
  · have hpositive : step.getD 1 ≠ 0 := by
      cases step with
      | none => decide
      | some step => simpa using hstep
    rw [slice, if_neg hstep] at h ⊢
    rw [if_neg hstep, hsize, ← slicePlaces_eq_selectedPlaces _ _ _ hpositive]
    refine congrArg Except.ok (rowsAt_of_holds hl (fun p hp => ?_) h)
    rw [slicePlaces_eq_selectedPlaces _ _ _ hpositive] at hp
    exact (mem_selectedPlaces_iff.1 hp).1

theorem filterMap_range (objects : List RowObject) :
    (List.range objects.length).filterMap (objects[·]?) = objects := by
  induction objects with
  | nil => rfl
  | cons o rest ih => simpa [List.range_succ_eq_map, List.filterMap_map, Function.comp_def] using ih

theorem toList_of_holds (hl : l.IsSound) (h : Holds objects l.toList.2) : l.toList.1 = objects := by
  have hsize : objects.length = l.size := by
    rw [h.length]
    exact size_of_grows (grows_perform l .forward)
  exact (rowsAt_of_holds hl (fun p => List.mem_range.1) h).trans (hsize ▸ filterMap_range objects)

/-- A search between two bounds goes through the places of the slice between them. -/
theorem find_of_holds (hl : l.IsSound) {object : RowObject} {start : Int} {stop : Option Int}
    (h : Holds objects (l.find object start stop).2) :
    (l.find object start stop).1 =
      (selectedPlaces objects.length (some start) stop 1).find? fun p =>
        objects[p]?.any (·.identity = object.identity) := by
  have hsize : objects.length = l.size := by
    rw [h.length]
    exact size_of_grows (grows_perform l (.find object start stop))
  have hselects : ∀ p : Nat, Selects l.size (some start) stop 1 p ↔
      (l.searchBound start).toNat ≤ p ∧ ∀ index ∈ stop.map l.searchBound, (p : Int) < index := by
    intro p
    have hstart : sliceStart l.size (some start) 1 = max 0 (l.searchBound start) := rfl
    rw [Selects, if_pos Int.one_pos, hstart]
    simp only [Int.one_dvd, true_and, Option.mem_map, forall_exists_index, and_imp,
      forall_apply_eq_imp_iff₂]
    refine and_congr (by omega) Iff.rfl
  rw [find, search_of_holds hl h, selectedPlaces, if_pos Int.one_pos, List.find?_filter, hsize]
  simp only [hselects, Bool.decide_and, Bool.decide_eq_true]

/-- A slice without bounds has all places. -/
theorem selectedPlaces_all (length : Nat) :
    selectedPlaces length (some 0) none 1 = List.range length := by
  rw [selectedPlaces, if_pos Int.one_pos, List.filter_eq_self]
  intro place _
  refine decide_eq_true ⟨Int.one_dvd _, ?_⟩
  rw [if_pos Int.one_pos]
  exact ⟨Int.natCast_nonneg place, nofun⟩

theorem find?_range (objects : List RowObject) (p : RowObject → Bool) :
    ((List.range objects.length).find? fun place => objects[place]?.any p) =
      objects.findIdx? p := by
  induction objects with
  | nil => rfl
  | cons o rest ih =>
      rw [List.findIdx?_cons, List.length_cons, List.range_succ_eq_map, List.find?_cons]
      cases ho : p o with
      | true => simp [ho]
      | false => simpa [ho, List.find?_map, Function.comp_def] using congrArg (·.map (· + 1)) ih

/-- An access answers as the objects do that the list has at the end. -/
theorem answer_of_holds (hl : l.IsSound) {access : Access}
    (h : Holds objects (l.perform access).2) : (l.perform access).1 = access.of objects := by
  have hsize : objects.length = l.size := by
    rw [h.length]
    exact size_of_grows (grows_perform l access)
  cases access with
  | index index => exact congrArg Answer.object (get_of_holds hl h)
  | slice start stop step => exact congrArg Answer.objects (slice_of_holds hl h)
  | forward => exact congrArg (Answer.objects <| .ok ·) (toList_of_holds hl h)
  | backward =>
      refine congrArg (Answer.objects <| .ok ·) ?_
      have hreversed : ∀ p ∈ (List.range l.size).reverse, p < l.size :=
        fun p hp => List.mem_range.1 (List.mem_reverse.1 hp)
      refine (rowsAt_of_holds hl hreversed h).trans ?_
      rw [← hsize, List.filterMap_reverse, filterMap_range]
  | contains object =>
      refine congrArg Answer.found ?_
      refine (congrArg Option.isSome (find_of_holds hl h)).trans ?_
      rw [selectedPlaces_all, find?_range, List.findIdx?_isSome]
  | count object =>
      exact congrArg Answer.number (congrArg (List.countP _) (toList_of_holds hl h))
  | find object start stop => exact congrArg Answer.place (find_of_holds hl h)

end

/-! ## All accesses -/

theorem grows_afterAll (l : RowList) (accesses : List Access) :
    Grows l (l.afterAll accesses) := by
  induction accesses generalizing l with
  | nil => exact .refl l
  | cons access rest ih => exact (grows_perform l access).trans (ih _)

theorem IsSound.afterAll (hl : l.IsSound) (accesses : List Access) :
    (l.afterAll accesses).IsSound := by
  induction accesses generalizing l with
  | nil => exact hl
  | cons access rest ih => exact ih (hl.perform access)

/-- All accesses answer as the objects do that the list has at the end. -/
theorem answers_of_holds {objects : List RowObject} (hl : l.IsSound) {accesses : List Access}
    (h : Holds objects (l.afterAll accesses)) :
    l.answers accesses = accesses.map (Access.of objects) := by
  induction accesses generalizing l with
  | nil => rfl
  | cons access rest ih =>
      have hfirst := answer_of_holds hl (h.of_grows (grows_afterAll _ rest))
      rw [answers, List.map_cons, hfirst, ih (hl.perform access) h]

/-- The objects of a list, with identities not yet given for those that are not made. -/
def rowObjects (l : RowList) : List RowObject :=
  (List.range l.size).map fun p => ⟨(l.identities[p]?.join).getD (l.made + p), l.rowOf p⟩

theorem getElem?_rowObjects {p : Nat} {o : RowObject} (h : l.rowObjects[p]? = some o) :
    p < l.size ∧ o = ⟨(l.identities[p]?.join).getD (l.made + p), l.rowOf p⟩ := by
  unfold rowObjects at h
  rw [List.getElem?_map, Option.map_eq_some_iff] at h
  obtain ⟨place, hplace, rfl⟩ := h
  obtain ⟨hlt, rfl⟩ := List.getElem?_eq_some_iff.1 hplace
  rw [List.getElem_range]
  exact ⟨List.length_range (n := l.size) ▸ hlt, rfl⟩

theorem IsSound.holds_rowObjects (hl : l.IsSound) : Holds l.rowObjects l where
  length := by simp [rowObjects]
  row h := by rw [(getElem?_rowObjects h).2]
  known {p i} h := by
    have hp : p < l.size := by
      rw [← hl.length]
      exact (List.getElem?_eq_some_iff.1 h).1
    refine ⟨⟨i, l.rowOf p⟩, ?_, rfl⟩
    simp [rowObjects, hp, h]

/-- Objects of different places are different. -/
theorem IsSound.rowObjects_distinct (hl : l.IsSound) {p q : Nat} {o o' : RowObject}
    (hp : l.rowObjects[p]? = some o) (hq : l.rowObjects[q]? = some o')
    (h : o.identity = o'.identity) : p = q := by
  obtain ⟨-, rfl⟩ := getElem?_rowObjects hp
  obtain ⟨-, rfl⟩ := getElem?_rowObjects hq
  have hmade : ∀ {r i : Nat}, l.identities[r]?.join = some i → l.identities[r]? = some (some i) :=
    fun h => Option.join_eq_some_iff.1 h
  rcases hi : l.identities[p]?.join with _ | i <;> rcases hj : l.identities[q]?.join with _ | j <;>
    simp only [hi, hj, Option.getD_none, Option.getD_some] at h
  · exact Nat.add_left_cancel h
  · exact absurd (hl.made (hmade hj)) (by omega)
  · exact absurd (hl.made (hmade hi)) (by omega)
  · exact hl.distinct (hmade hi) (h ▸ hmade hj)

/-- A list of rows is as if its rows were there from the start: some objects, one for each of the
value lists and of its row, no two the same, are what every access gives, in whatever order the
accesses are made. -/
theorem answers_of_objects (names : List String) (values : List (List Value))
    (accesses : List Access) :
    ∃ objects : List RowObject,
      objects.map (·.row) = values.map (fun row => ⟨names, row⟩) ∧
      (∀ (p q : Nat) (o o' : RowObject), objects[p]? = some o → objects[q]? = some o' →
        (o.identity = o'.identity ↔ p = q)) ∧
      (ofValues names values).answers accesses = accesses.map (Access.of objects) := by
  have hstart := isSound_ofValues names values
  have hend := hstart.afterAll accesses
  have hgrows := grows_afterAll (ofValues names values) accesses
  refine ⟨((ofValues names values).afterAll accesses).rowObjects, ?_,
    fun p q o o' hp hq => ⟨?_, ?_⟩,
    answers_of_holds hstart hend.holds_rowObjects⟩
  · have hrows : ∀ p, ((ofValues names values).afterAll accesses).rowOf p =
        ⟨names, values.getD p []⟩ := by
      intro p
      rw [rowOf, hgrows.names, hgrows.values]
      rfl
    rw [rowObjects, List.map_map, size_of_grows hgrows]
    refine List.ext_getElem (by simp [size, ofValues]) fun p hp hp' => ?_
    simp [hrows, List.getD_eq_getElem?_getD, List.getElem?_eq_getElem (by simpa using hp')]
  · exact hend.rowObjects_distinct hp hq
  · rintro rfl
    rw [Option.some.inj (hp.symm.trans hq)]

end TdsClient.RowList
