import Mathlib.Data.List.Forall2
import SdlCodegen.Log

/-!
# Sequences of fallible computations

When a sequence of computations succeeds and when it fails: a chain of two, the same computation on
every element of a list, and an accumulation over a list. A logged computation is reduced to its
result, so its events do not occur in these statements.
-/

namespace SdlCodegen

namespace Fallible

variable {ε ε' α β γ : Type}

/-- Giving a value always succeeds. -/
theorem pure_eq_ok {given value : α} : (pure given : Except ε α) = .ok value ↔ value = given := by
  simp [pure, Except.pure, eq_comm]

/-- What succeeds gives a value. -/
theorem exists_eq_ok_of_isOk {computation : Except ε α} (h : computation.isOk) :
    ∃ value, computation = .ok value := by
  cases computation with
  | ok value => exact ⟨value, rfl⟩
  | error error => cases h

/-- A chain succeeds exactly if each part does. -/
theorem bind_eq_ok {first : Except ε α} {next : α → Except ε β} {value : β} :
    (first >>= next) = .ok value ↔ ∃ middle, first = .ok middle ∧ next middle = .ok value := by
  cases first <;> simp [bind, Except.bind]

/-- A chain fails as its first failing part. -/
theorem bind_eq_error {first : Except ε α} {next : α → Except ε β} {error : ε} :
    (first >>= next) = .error error ↔
      first = .error error ∨ ∃ middle, first = .ok middle ∧ next middle = .error error := by
  cases first <;> simp [bind, Except.bind]

/-- A chain that begins with a check succeeds exactly if the check passes and the rest succeeds. -/
theorem check_bind_eq_ok {check : Except ε Unit} {next : Unit → Except ε β} {value : β} :
    (check >>= next) = .ok value ↔ check = .ok () ∧ next () = .ok value := by
  cases check <;> simp [bind, Except.bind]

/-- A chain that ends with a value fails as its first part does. -/
theorem bind_pure_eq_error {first : Except ε α} {value : α → β} {error : ε} :
    (first >>= fun middle => pure (value middle)) = .error error ↔ first = .error error := by
  cases first <;> simp [bind, Except.bind, pure, Except.pure]

/-- Saying the same with another error changes no success. -/
theorem mapError_eq_ok {f : ε → ε'} {computation : Except ε α} {value : α} :
    computation.mapError f = .ok value ↔ computation = .ok value := by
  cases computation <;> simp [Except.mapError]

/-- Saying the same with another error changes the error only. -/
theorem mapError_eq_error {f : ε → ε'} {computation : Except ε α} {error : ε'} :
    computation.mapError f = .error error ↔
      ∃ cause, computation = .error cause ∧ f cause = error := by
  cases computation <;> simp [Except.mapError]

/-- What is made of a value is given exactly if the value is. -/
theorem map_eq_ok {f : α → β} {computation : Except ε α} {value : β} :
    computation.map f = .ok value ↔ ∃ middle, computation = .ok middle ∧ f middle = value := by
  cases computation <;> simp [Except.map]

/-- What is made of a value is missing exactly if the value is. -/
theorem map_eq_error {f : α → β} {computation : Except ε α} {error : ε} :
    computation.map f = .error error ↔ computation = .error error := by
  cases computation <;> simp [Except.map]

/-- A computation on every element succeeds exactly if it does on each. -/
theorem mapM_eq_ok {f : α → Except ε β} {items : List α} {values : List β} :
    items.mapM f = .ok values ↔
      List.Forall₂ (fun item value => f item = .ok value) items values := by
  induction items generalizing values with
  | nil => cases values <;> simp [pure, Except.pure]
  | cons item items ih =>
    rw [List.mapM_cons, bind_eq_ok]
    constructor
    · intro hparts
      obtain ⟨value, hvalue, hrest⟩ := hparts
      obtain ⟨others, hothers, heq⟩ := bind_eq_ok.mp hrest
      cases heq
      exact .cons hvalue (ih.mp hothers)
    · rintro (_ | ⟨hvalue, hothers⟩)
      exact ⟨_, hvalue, bind_eq_ok.mpr ⟨_, ih.mpr hothers, rfl⟩⟩

/-- A computation on every element gives values that go with the elements, if it does so on each. -/
theorem mapM_eq_ok_of_mem {f : α → Except ε β} {R : α → β → Prop} {items : List α} {values : List β}
    (h : ∀ item ∈ items, ∀ value, f item = .ok value ↔ R item value) :
    items.mapM f = .ok values ↔ List.Forall₂ R items values := by
  have hmem : ∀ {S : α → β → Prop}, List.Forall₂ S items values →
      List.Forall₂ (fun item value => item ∈ items ∧ S item value) items values :=
    fun hall => (List.forall₂_and_left items values).mpr ⟨fun _ hitem => hitem, hall⟩
  rw [mapM_eq_ok]
  constructor
  · exact fun hall => (hmem hall).imp fun item value hitem => (h item hitem.1 value).mp hitem.2
  · exact fun hall => (hmem hall).imp fun item value hitem => (h item hitem.1 value).mpr hitem.2

/-- A computation that can give just one value for each element gives the list of them, if it
succeeds on each. -/
theorem mapM_eq_ok_map {f : α → Except ε β} {P : α → Prop} {g : α → β}
    (h : ∀ item value, f item = .ok value ↔ P item ∧ value = g item) {items : List α}
    {values : List β} :
    items.mapM f = .ok values ↔ (∀ item ∈ items, P item) ∧ values = items.map g := by
  have hmap :
      List.Forall₂ (fun item value => value = g item) items values ↔ values = items.map g := by
    rw [eq_comm, ← List.forall₂_eq_eq_eq, List.forall₂_map_left_iff]
    constructor <;> exact List.Forall₂.imp fun _ _ => Eq.symm
  rw [mapM_eq_ok]
  simp only [h, List.forall₂_and_left, hmap]

/-- Changing every value of a computation on a list changes the list of values. -/
theorem mapM_map_eq_map (f : α → Except ε β) (g : β → γ) (items : List α) :
    items.mapM (fun item => (f item).map g) = (items.mapM f).map (List.map g) := by
  induction items with
  | nil => rfl
  | cons item items ih =>
    rw [List.mapM_cons, List.mapM_cons, ih]
    cases f item with
    | error error => rfl
    | ok value => cases items.mapM f <;> rfl

/-- Leaving out elements that would give nothing changes nothing in what is given. -/
theorem mapM_filter_map_filterMap {f g : α → Except ε (Option β)} {p : α → Bool} {items : List α}
    (hkept : ∀ item ∈ items, p item → f item = g item)
    (hdropped : ∀ item ∈ items, p item = false → f item = .ok none) :
    ((items.filter p).mapM g).map (List.filterMap id) = (items.mapM f).map (List.filterMap id) := by
  induction items with
  | nil => rfl
  | cons item items ih =>
    rw [List.forall_mem_cons] at hkept hdropped
    have hrest := ih hkept.2 hdropped.2
    rw [List.mapM_cons]
    cases hitem : p item with
    | true =>
      rw [List.filter_cons_of_pos hitem, List.mapM_cons, hkept.1 hitem]
      cases g item with
      | error error => rfl
      | ok value =>
        have hcons : ∀ others : Except ε (List (Option β)),
            (others >>= fun values => pure (value :: values)).map (List.filterMap id) =
              (others.map (List.filterMap id)).map (value.toList ++ ·) := by
          intro others
          cases others <;> cases value <;> rfl
        exact (hcons _).trans ((congrArg _ hrest).trans (hcons _).symm)
    | false =>
      rw [List.filter_cons_of_neg (by simp [hitem]), hdropped.1 hitem, hrest]
      cases items.mapM f <;> rfl

/-- Every value of a computation on a list comes from one of the elements. -/
theorem exists_mem_of_mapM_eq_ok {f : α → Except ε β} {items : List α} {values : List β}
    (h : items.mapM f = .ok values) {value : β} (hmem : value ∈ values) :
    ∃ item ∈ items, f item = .ok value := by
  rw [mapM_eq_ok] at h
  induction h with
  | nil => cases hmem
  | cons hhead _ ih =>
    rcases List.mem_cons.mp hmem with rfl | hmem
    · exact ⟨_, List.mem_cons_self, hhead⟩
    · obtain ⟨item, hitem, hvalue⟩ := ih hmem
      exact ⟨item, List.mem_cons_of_mem _ hitem, hvalue⟩

/-- A computation that succeeds on a list does so on every element. -/
theorem exists_eq_ok_of_mapM_eq_ok {f : α → Except ε β} {items : List α} {values : List β}
    (h : items.mapM f = .ok values) {item : α} (hmem : item ∈ items) :
    ∃ value, f item = .ok value := by
  rw [mapM_eq_ok] at h
  induction h with
  | nil => cases hmem
  | cons hhead _ ih =>
    rcases List.mem_cons.mp hmem with rfl | hmem
    · exact ⟨_, hhead⟩
    · exact ih hmem

/-- A computation on every element fails exactly if it succeeds on some elements in front and fails
on the next one. -/
theorem mapM_eq_error {f : α → Except ε β} {items : List α} {error : ε} :
    items.mapM f = .error error ↔
      ∃ front item back, items = front ++ item :: back ∧
        (∀ earlier ∈ front, ∃ value, f earlier = .ok value) ∧
        f item = .error error := by
  induction items with
  | nil => simp [pure, Except.pure]
  | cons item items ih =>
    rw [List.mapM_cons, bind_eq_error]
    constructor
    · rintro (hitem | ⟨value, hvalue, hrest⟩)
      · exact ⟨[], item, items, rfl, nofun, hitem⟩
      · obtain ⟨front, later, back, rfl, hfront, hlater⟩ := ih.mp (bind_pure_eq_error.mp hrest)
        exact ⟨item :: front, later, back, rfl, List.forall_mem_cons.mpr ⟨⟨value, hvalue⟩, hfront⟩,
          hlater⟩
    · rintro ⟨front, later, back, heq, hfront, hlater⟩
      cases front with
      | nil =>
        cases heq
        exact .inl hlater
      | cons first front =>
        cases heq
        obtain ⟨⟨value, hvalue⟩, hfront⟩ := List.forall_mem_cons.mp hfront
        exact .inr ⟨value, hvalue,
          bind_pure_eq_error.mpr (ih.mpr ⟨front, later, back, rfl, hfront, hlater⟩)⟩

/-- The same for a computation that gives the values that go with an element and fails with the
errors that do. -/
theorem mapM_eq_error_of_mem {f : α → Except ε β} {R : α → β → Prop} {S : α → ε → Prop}
    {items : List α} {error : ε} (hok : ∀ item ∈ items, ∀ value, f item = .ok value ↔ R item value)
    (herror : ∀ item ∈ items, f item = .error error ↔ S item error) :
    items.mapM f = .error error ↔
      ∃ front item back, items = front ++ item :: back ∧
        (∀ earlier ∈ front, ∃ value, R earlier value) ∧
        S item error := by
  rw [mapM_eq_error]
  constructor
  · rintro ⟨front, item, back, rfl, hfront, hitem⟩
    refine ⟨front, item, back, rfl, fun earlier hearlier => ?_, (herror item (by simp)).mp hitem⟩
    obtain ⟨value, hvalue⟩ := hfront earlier hearlier
    exact ⟨value, (hok earlier (by simp [hearlier]) value).mp hvalue⟩
  · rintro ⟨front, item, back, rfl, hfront, hitem⟩
    refine ⟨front, item, back, rfl, fun earlier hearlier => ?_, (herror item (by simp)).mpr hitem⟩
    obtain ⟨value, hvalue⟩ := hfront earlier hearlier
    exact ⟨value, (hok earlier (by simp [hearlier]) value).mpr hvalue⟩

/-- If a computation on every element fails, it fails so on one of them. -/
theorem exists_mem_of_mapM_eq_error {f : α → Except ε β} {items : List α} {error : ε}
    (h : items.mapM f = .error error) : ∃ item ∈ items, f item = .error error := by
  obtain ⟨front, item, back, rfl, -, hitem⟩ := mapM_eq_error.mp h
  exact ⟨item, List.mem_append_right front List.mem_cons_self, hitem⟩

/-- A computation that succeeds on each element succeeds on the list. -/
theorem exists_mapM_eq_ok {f : α → Except ε β} {items : List α}
    (h : ∀ item ∈ items, ∃ value, f item = .ok value) : ∃ values, items.mapM f = .ok values := by
  cases hresult : items.mapM f with
  | ok values => exact ⟨values, rfl⟩
  | error error =>
    obtain ⟨item, hmem, hitem⟩ := exists_mem_of_mapM_eq_error hresult
    obtain ⟨value, hvalue⟩ := h item hmem
    rw [hvalue] at hitem
    cases hitem

/-- An accumulation fails exactly if it gets through some elements and fails on the next one. -/
theorem foldlM_eq_error {f : β → α → Except ε β} {state : β} {items : List α} {error : ε} :
    items.foldlM f state = .error error ↔
      ∃ front item back middle, items = front ++ item :: back ∧
        front.foldlM f state = .ok middle ∧ f middle item = .error error := by
  induction items generalizing state with
  | nil => simp [pure, Except.pure]
  | cons item items ih =>
    rw [List.foldlM_cons, bind_eq_error]
    constructor
    · intro hparts
      rcases hparts with hitem | ⟨next, hnext, hrest⟩
      · exact ⟨[], item, items, state, rfl, rfl, hitem⟩
      · obtain ⟨front, later, back, middle, rfl, hfront, hlater⟩ := ih.mp hrest
        refine ⟨item :: front, later, back, middle, rfl, ?_, hlater⟩
        rw [List.foldlM_cons, bind_eq_ok]
        exact ⟨next, hnext, hfront⟩
    · intro hparts
      obtain ⟨front, later, back, middle, heq, hfront, hlater⟩ := hparts
      cases front with
      | nil =>
        cases heq
        cases hfront
        exact .inl hlater
      | cons first front =>
        cases heq
        rw [List.foldlM_cons, bind_eq_ok] at hfront
        obtain ⟨next, hnext, hfront⟩ := hfront
        exact .inr ⟨next, hnext, ih.mpr ⟨front, later, back, middle, rfl, hfront, hlater⟩⟩

/-- A check of every element passes exactly if it does on each. -/
theorem forM_eq_ok {f : α → Except ε Unit} {items : List α} :
    items.forM f = .ok () ↔ ∀ item ∈ items, f item = .ok () := by
  induction items with
  | nil => simp [pure, Except.pure]
  | cons item items ih =>
    change (f item >>= fun _ => items.forM f) = .ok () ↔ _
    rw [bind_eq_ok, List.forall_mem_cons, ← ih]
    constructor
    · intro hparts
      obtain ⟨_, hitem, hrest⟩ := hparts
      exact ⟨hitem, hrest⟩
    · intro hparts
      obtain ⟨hitem, hrest⟩ := hparts
      exact ⟨(), hitem, hrest⟩

/-- A computation gives a value with one property or fails with an error that has another. -/
def Meets (P : α → Prop) (Q : ε → Prop) : Except ε α → Prop
  | .ok value => P value
  | .error error => Q error

namespace Meets

variable {P : α → Prop} {P' : β → Prop} {Q : ε → Prop}

/-- What a chain gives has a property if the second part gives it from every value of the first. -/
theorem bind {first : Except ε α} {next : α → Except ε β} (h : Meets P Q first)
    (hnext : ∀ value, P value → Meets P' Q (next value)) : Meets P' Q (first >>= next) := by
  cases first with
  | ok value => exact hnext value h
  | error error => exact h

/-- What is made of a value has a property if it is made of every value. -/
theorem map {computation : Except ε α} {f : α → β} (h : Meets P Q computation)
    (hvalue : ∀ value, P value → P' (f value)) : Meets P' Q (computation.map f) := by
  cases computation with
  | ok value => exact hvalue value h
  | error error => exact h

/-- A computation on a list gives values with a property if it does so on every element. -/
theorem mapM {f : α → Except ε β} {items : List α} (h : ∀ item ∈ items, Meets P' Q (f item)) :
    Meets (fun values => ∀ value ∈ values, P' value) Q (items.mapM f) := by
  cases hresult : items.mapM f with
  | ok values =>
    intro value hvalue
    obtain ⟨item, hitem, heq⟩ := exists_mem_of_mapM_eq_ok hresult hvalue
    have hmeets := h item hitem
    rwa [heq] at hmeets
  | error error =>
    obtain ⟨item, hitem, heq⟩ := exists_mem_of_mapM_eq_error hresult
    have hmeets := h item hitem
    rwa [heq] at hmeets

end Meets

end Fallible

namespace Logged

variable {ε ε' α β : Type}

@[simp] theorem result_pure (value : α) : (pure value : Logged ε α).result = .ok value := rfl

@[simp] theorem result_ofExcept (result : Except ε α) : (ofExcept result).result = result := rfl

@[simp] theorem result_emit (event : Event) : (emit event : Logged ε Unit).result = .ok () := rfl

@[simp] theorem result_fail (error : ε) : (fail error : Logged ε α).result = .error error := rfl

@[simp] theorem result_mapError (f : ε → ε') (computation : Logged ε α) :
    (computation.mapError f).result = computation.result.mapError f := rfl

/-- The result on a list is the result of the computation without events. -/
theorem result_mapM (f : α → Logged ε β) (items : List α) :
    (items.mapM f).result = items.mapM fun item => (f item).result := by
  induction items with
  | nil => rfl
  | cons item items ih => simp only [List.mapM_cons, result_bind, ih, result_pure]; rfl

/-- The result of an accumulation is that of the accumulation without events. -/
theorem result_foldlM (f : β → α → Logged ε β) (first : β) (items : List α) :
    (items.foldlM f first).result =
      items.foldlM (fun state item => (f state item).result) first := by
  induction items generalizing first with
  | nil => rfl
  | cons item items ih => simp only [List.foldlM_cons, result_bind, ih]

end Logged

end SdlCodegen
