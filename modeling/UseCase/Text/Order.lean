/-!
# Order of texts

Texts are ordered by the code points of their characters, which is the order of their UTF-8 bytes as
well. `lexicographic` lifts an order to lists, so that paths can be ordered by their components in
the same way.
-/

namespace UseCase.Text

variable {α : Type}

/-- The order of lists whose elements have the order `lt`; a list comes before its continuations. -/
def lexicographic [DecidableEq α] (lt : α → α → Bool) : List α → List α → Bool
  | [], [] => false
  | [], _ :: _ => true
  | _ :: _, [] => false
  | x :: xs, y :: ys => if x = y then lexicographic lt xs ys else lt x y

/-- A strict total order, as a test. -/
structure IsOrder (lt : α → α → Bool) : Prop where
  irrefl (x : α) : lt x x = false
  trans {x y z : α} : lt x y = true → lt y z = true → lt x z = true
  total {x y : α} : x ≠ y → lt x y = true ∨ lt y x = true

/-- Of two things only one comes before the other. -/
theorem IsOrder.asymm {lt : α → α → Bool} (h : IsOrder lt) {x y : α} (xy : lt x y = true) :
    lt y x = false := by
  cases yx : lt y x with
  | false => rfl
  | true => exact absurd (h.trans xy yx) (by simp [h.irrefl])

section
variable [DecidableEq α] {lt : α → α → Bool}

/-- No list comes before itself. -/
theorem lexicographic_irrefl (xs : List α) : lexicographic lt xs xs = false := by
  induction xs with
  | nil => rfl
  | cons x xs ih => simp [lexicographic, ih]

/-- Of two different lists one comes before the other. -/
theorem lexicographic_total (h : IsOrder lt) {xs ys : List α} (ne : xs ≠ ys) :
    lexicographic lt xs ys = true ∨ lexicographic lt ys xs = true := by
  induction xs generalizing ys with
  | nil =>
    cases ys with
    | nil => exact absurd rfl ne
    | cons y ys => exact .inl rfl
  | cons x xs ih =>
    cases ys with
    | nil => exact .inr rfl
    | cons y ys =>
      by_cases e : x = y
      · subst e
        simpa [lexicographic] using ih (fun e => ne (by rw [e]))
      · have e' : y ≠ x := fun he => e he.symm
        simpa [lexicographic, e, e'] using h.total e

/-- A list that comes before another comes before those after it. -/
theorem lexicographic_trans (h : IsOrder lt) {xs ys zs : List α}
    (xy : lexicographic lt xs ys = true) (yz : lexicographic lt ys zs = true) :
    lexicographic lt xs zs = true := by
  induction xs generalizing ys zs with
  | nil =>
    cases zs with
    | nil => cases ys <;> simp [lexicographic] at yz
    | cons z zs => rfl
  | cons x xs ih =>
    cases ys with
    | nil => simp [lexicographic] at xy
    | cons y ys =>
      cases zs with
      | nil => simp [lexicographic] at yz
      | cons z zs =>
        by_cases exy : x = y
        · subst exy
          by_cases exz : x = z
          · subst exz
            simp only [lexicographic, if_true] at xy yz ⊢
            exact ih xy yz
          · simp_all [lexicographic]
        · by_cases eyz : y = z
          · subst eyz
            simp_all [lexicographic]
          · simp only [lexicographic, exy, eyz, if_false] at xy yz
            have xz := h.trans xy yz
            have ne : x ≠ z := fun e => by simp [e, h.irrefl] at xz
            simp [lexicographic, ne, xz]

/-- The order of lists is an order if that of the elements is one. -/
theorem IsOrder.lexicographic (h : IsOrder lt) : IsOrder (Text.lexicographic lt) where
  irrefl := lexicographic_irrefl
  trans := lexicographic_trans h
  total := lexicographic_total h

end

/-- What is told apart by something that has an order can be ordered in the same way. -/
theorem IsOrder.comap {β : Type} {lt : α → α → Bool} (h : IsOrder lt) {f : β → α}
    (injective : ∀ x y, f x = f y → x = y) : IsOrder fun x y => lt (f x) (f y) where
  irrefl x := h.irrefl (f x)
  trans := h.trans
  total ne := h.total fun e => ne (injective _ _ e)

/-- The order of characters by code point. -/
def charBefore (c d : Char) : Bool :=
  decide (c.toNat < d.toNat)

/-- The code points order the characters. -/
theorem isOrder_charBefore : IsOrder charBefore where
  irrefl c := by simp [charBefore]
  trans h k := by simp_all [charBefore]; omega
  total {c d} ne := by
    have : c.toNat ≠ d.toNat := fun e => ne (Char.toNat_inj.mp e)
    simp only [charBefore, decide_eq_true_eq]
    omega

/-- Whether one text comes before another. -/
def before (s t : String) : Bool :=
  lexicographic charBefore s.toList t.toList

/-- Texts are ordered by their characters. -/
theorem isOrder_before : IsOrder before :=
  isOrder_charBefore.lexicographic.comap fun _ _ => String.toList_inj.mp

end UseCase.Text
