import UseCase.Proofs.Card
import UseCase.Proofs.Outcome

/-!
# The defect that is reported

The rules for a description stand at places: lists of numbers that are compared like words, from the
card itself through its verbs in order, and in each of them through its name, its devices and its
modifiers. Of all violations the check reports the one at the first place.
-/

namespace UseCase

/-- Where the entities of a kind stand among the rules for a verb, after the rules for its name. -/
def Kind.rank : Kind → Nat
  | .device => 1
  | .modifier => 2

/-- The violations of items in a list, each by rules that know the items before it. -/
inductive Each {α : Type} (violates : List α → α → List Nat → Defect → Prop) (items : List α) :
    List Nat → Defect → Prop
  | item {i : Nat} {x : α} {place : List Nat} {defect : Defect} : items[i]? = some x →
    violates (items.take i) x place defect → Each violates items (i :: place) defect

/-- The rules for an entity of a verb, in this order. -/
inductive Entity.Violates (verb : String) (kind : Kind) (before : List Entity) (e : Entity) :
    List Nat → Defect → Prop
  | nameless : e.name = "" → Violates verb kind before e [0] (.namelessEntity kind verb)
  | repeated {other : Entity} : other ∈ before → other.name = e.name →
    Violates verb kind before e [1] (.duplicateEntity kind e.name verb)
  | outside : ¬ (Entity.minPriority ≤ e.priority ∧ e.priority ≤ Entity.maxPriority) →
    Violates verb kind before e [2] (.priorityOutside kind e.name e.priority)

/-- The rules for a verb: those for its name, and those for its entities. -/
inductive Verb.Violates (before : List Verb) (v : Verb) : List Nat → Defect → Prop
  | nameless : v.name = "" → Violates before v [0, 0] .namelessVerb
  | repeated {other : Verb} : other ∈ before → other.name = v.name →
    Violates before v [0, 1] (.duplicateVerb v.name)
  | entity {kind : Kind} {place : List Nat} {defect : Defect} :
    Each (Entity.Violates v.name kind) (v.entities kind) place defect →
    Violates before v (kind.rank :: place) defect

/-- The rules for a card: the one for its name, and those for its verbs. -/
inductive Card.Violates (c : Card) : List Nat → Defect → Prop
  | nameless : c.info.name = "" → Violates c [] .namelessCard
  | verb {place : List Nat} {defect : Defect} : Each Verb.Violates c.verbs place defect →
    Violates c place defect

/-- A check reports the violation at the first place where there is one. -/
def Reports (violates : List Nat → Defect → Prop) : Except Defect Unit → Prop
  | .ok () => ∀ place defect, ¬ violates place defect
  | .error defect => ∃ place, violates place defect ∧
    ∀ earlier < place, ∀ other, ¬ violates earlier other

/-- A check reports violations by whatever equivalent rules they are told. -/
lemma Reports.congr {violates violates' : List Nat → Defect → Prop} {result : Except Defect Unit}
    (reports : Reports violates result)
    (same : ∀ place defect, violates' place defect ↔ violates place defect) :
    Reports violates' result := by
  have equal : violates' = violates :=
    funext fun place => funext fun defect => propext (same place defect)
  rwa [equal]

/-! ## Lists -/

section

variable {α : Type} {nameOf : α → String} {violates : List α → α → List Nat → Defect → Prop}
  {first : List String → α → Except Defect Unit} {check : List String → List α → Except Defect Unit}

/-- Of items that are checked one after another, the first violation is reported if each check
reports the first one of its item. -/
lemma reports_each (nil : ∀ seen, check seen [] = .ok ())
    (cons : ∀ seen x rest,
      check seen (x :: rest) = first seen x >>= fun _ => check (nameOf x :: seen) rest)
    (reports : ∀ before x, Reports (violates before x) (first (before.map nameOf).reverse x))
    (items : List α) : Reports (Each violates items) (check [] items) := by
  -- The invariant: there is no violation by the items that were checked before.
  have further (before rest : List α)
      (clean : ∀ place defect, Each violates (before ++ rest) place defect →
        ∃ i below, place = i :: below ∧ before.length ≤ i) :
      Reports (Each violates (before ++ rest)) (check (before.map nameOf).reverse rest) := by
    induction rest generalizing before with
    | nil =>
      rw [nil]
      intro place defect violated
      obtain ⟨i, below, rfl, late⟩ := clean place defect violated
      cases violated with
      | item there =>
        obtain ⟨inside, -⟩ := List.getElem?_eq_some_iff.mp there
        rw [List.append_nil] at inside
        omega
    | cons x rest ih =>
      have here : (before ++ x :: rest)[before.length]? = some x := by simp
      have upto : (before ++ x :: rest).take before.length = before := by simp
      have now := reports before x
      rw [cons]
      cases checked : first (before.map nameOf).reverse x with
      | error defect =>
        rw [checked] at now
        obtain ⟨place, violated, none⟩ := now
        refine ⟨before.length :: place, .item here (by rwa [upto]), fun earlier less other => ?_⟩
        intro violated'
        obtain ⟨i, below, rfl, late⟩ := clean earlier other violated'
        rcases List.cons_lt_cons_iff.mp less with sooner | ⟨rfl, sooner⟩
        · omega
        · cases violated' with
          | item there violated' =>
            cases here.symm.trans there
            rw [upto] at violated'
            exact none below sooner other violated'
      | ok u =>
        rw [checked] at now
        have after := ih (before ++ [x])
        rw [List.append_assoc, List.singleton_append, List.map_append, List.reverse_append] at after
        refine after fun place defect violated => ?_
        obtain ⟨i, below, rfl, late⟩ := clean place defect violated
        refine ⟨i, below, rfl, ?_⟩
        rw [List.length_append, List.length_singleton]
        refine Nat.lt_of_le_of_ne late ?_
        rintro rfl
        cases violated with
        | item there violated =>
          cases here.symm.trans there
          rw [upto] at violated
          exact now below defect violated
  refine further [] items fun place defect violated => ?_
  cases violated with
  | item => exact ⟨_, _, rfl, Nat.zero_le _⟩

end

variable {c : Card}

namespace Card

/-! ## Entities -/

/-- The check of one entity; `seen` are the names that came before. -/
def checkEntity (verb : String) (kind : Kind) (seen : List String) (e : Entity) :
    Except Defect Unit :=
  if e.name.isEmpty then .error (.namelessEntity kind verb)
  else if seen.contains e.name then .error (.duplicateEntity kind e.name verb)
  else if e.priority < Entity.minPriority ∨ Entity.maxPriority < e.priority then
    .error (.priorityOutside kind e.name e.priority)
  else .ok ()

/-- Entities are checked one after another, each with the names before it. -/
lemma validateEntities_cons (verb : String) (kind : Kind) (seen : List String) (e : Entity)
    (rest : List Entity) :
    validateEntities verb kind seen (e :: rest) = checkEntity verb kind seen e >>= fun _ =>
      validateEntities verb kind (e.name :: seen) rest := by
  rw [checkEntity, validateEntities]
  split_ifs <;> rfl

/-- The names that were seen are those of the items before. -/
lemma mem_seen {α : Type} {nameOf : α → String} {before : List α} {name : String} :
    ((before.map nameOf).reverse.contains name = true) ↔ ∃ other ∈ before, nameOf other = name := by
  rw [List.contains_iff_mem, List.mem_reverse, List.mem_map]

/-- An entity is checked by the rules for entities. -/
lemma reports_entity (verb : String) (kind : Kind) (before : List Entity) (e : Entity) :
    Reports (e.Violates verb kind before)
      (checkEntity verb kind (before.map Entity.name).reverse e) := by
  rw [checkEntity]
  split_ifs with nameless repeated outside
  · refine ⟨[0], .nameless (String.isEmpty_iff.mp nameless), ?_⟩
    rintro earlier less other (empty | ⟨member, same⟩ | outside)
    all_goals revert less; decide
  · obtain ⟨other, member, same⟩ := mem_seen.mp repeated
    refine ⟨[1], .repeated member same, ?_⟩
    rintro earlier less other (empty | ⟨member, same⟩ | outside)
    · exact nameless (String.isEmpty_iff.mpr empty)
    all_goals revert less; decide
  · refine ⟨[2], .outside (by omega), ?_⟩
    rintro earlier less other (empty | ⟨member, same⟩ | outside)
    · exact nameless (String.isEmpty_iff.mpr empty)
    · exact repeated (mem_seen.mpr ⟨_, member, same⟩)
    · revert less
      decide
  · rintro place defect (empty | ⟨member, same⟩ | outside')
    · exact nameless (String.isEmpty_iff.mpr empty)
    · exact repeated (mem_seen.mpr ⟨_, member, same⟩)
    · omega

/-- The entities of a kind are checked by the rules for each of them. -/
lemma reports_entities (verb : String) (kind : Kind) (entities : List Entity) :
    Reports (Each (Entity.Violates verb kind) entities)
      (validateEntities verb kind [] entities) :=
  reports_each (fun _ => rfl) (validateEntities_cons verb kind) (reports_entity verb kind) entities

/-! ## Verbs -/

/-- The check of one verb; `seen` are the names that came before. -/
def checkVerb (seen : List String) (v : Verb) : Except Defect Unit :=
  if v.name.isEmpty then .error .namelessVerb
  else if seen.contains v.name then .error (.duplicateVerb v.name)
  else do
    validateEntities v.name .device [] (v.entities .device)
    validateEntities v.name .modifier [] (v.entities .modifier)

/-- Verbs are checked one after another, each with the names before it. -/
lemma validateVerbs_cons (seen : List String) (v : Verb) (rest : List Verb) :
    validateVerbs seen (v :: rest) =
      checkVerb seen v >>= fun _ => validateVerbs (v.name :: seen) rest := by
  rw [checkVerb, validateVerbs]
  split_ifs
  · rfl
  · rfl
  · exact (bind_assoc _ _ _).symm

/-- The entities of both kinds. -/
lemma reports_kinds (v : Verb) :
    Reports (fun place defect => ∃ kind below, place = kind.rank :: below ∧
        Each (Entity.Violates v.name kind) (v.entities kind) below defect)
      (do
        validateEntities v.name .device [] (v.entities .device)
        validateEntities v.name .modifier [] (v.entities .modifier)) := by
  have devices := reports_entities v.name .device (v.entities .device)
  have modifiers := reports_entities v.name .modifier (v.entities .modifier)
  cases checked : validateEntities v.name .device [] (v.entities .device) with
  | error defect =>
    rw [checked] at devices
    obtain ⟨place, violated, none⟩ := devices
    -- A violation by a modifier has a greater place, so only devices could come before this one.
    refine ⟨_, ⟨.device, place, rfl, violated⟩, ?_⟩
    rintro _ less other ⟨kind, below, rfl, violated'⟩
    cases kind with
    | device => exact none below (List.cons_lt_cons_self.mp less) other violated'
    | modifier => simp [Kind.rank, List.cons_lt_cons_iff] at less
  | ok u =>
    rw [checked] at devices
    cases checked' : validateEntities v.name .modifier [] (v.entities .modifier) with
    | error defect =>
      rw [checked'] at modifiers
      obtain ⟨place, violated, none⟩ := modifiers
      refine ⟨_, ⟨.modifier, place, rfl, violated⟩, ?_⟩
      rintro _ less other ⟨kind, below, rfl, violated'⟩
      cases kind with
      | device => exact devices below other violated'
      | modifier => exact none below (List.cons_lt_cons_self.mp less) other violated'
    | ok u =>
      rw [checked'] at modifiers
      rintro _ defect ⟨kind, below, rfl, violated⟩
      cases kind with
      | device => exact devices below defect violated
      | modifier => exact modifiers below defect violated

/-- A verb is checked by the rules for verbs. -/
lemma reports_verb (before : List Verb) (v : Verb) :
    Reports (v.Violates before) (checkVerb (before.map Verb.name).reverse v) := by
  have late {kind : Kind} {below : List Nat} {rule : Nat} : ¬ kind.rank :: below < [0, rule] := by
    cases kind <;> simp [Kind.rank, List.cons_lt_cons_iff]
  rw [checkVerb]
  split_ifs with nameless repeated
  · refine ⟨[0, 0], .nameless (String.isEmpty_iff.mp nameless), ?_⟩
    rintro earlier less other (empty | ⟨member, same⟩ | violated)
    · revert less
      decide
    · revert less
      decide
    · exact late less
  · obtain ⟨other, member, same⟩ := mem_seen.mp repeated
    refine ⟨[0, 1], .repeated member same, ?_⟩
    rintro earlier less other (empty | ⟨member, same⟩ | violated)
    · exact nameless (String.isEmpty_iff.mpr empty)
    · revert less
      decide
    · exact late less
  · -- Without a violation by its name, the rules for a verb are those for its entities.
    refine (reports_kinds v).congr fun place defect => ?_
    constructor
    · rintro (empty | ⟨member, same⟩ | violated)
      · exact absurd (String.isEmpty_iff.mpr empty) nameless
      · exact absurd (mem_seen.mpr ⟨_, member, same⟩) repeated
      · exact ⟨_, _, rfl, violated⟩
    · rintro ⟨kind, below, rfl, violated⟩
      exact .entity violated

/-- The verbs of a card are checked by the rules for each of them. -/
lemma reports_verbs (verbs : List Verb) :
    Reports (Each Verb.Violates verbs) (validateVerbs [] verbs) :=
  reports_each (fun _ => rfl) validateVerbs_cons reports_verb verbs

/-! ## Cards -/

/-- A card is checked by the rules for cards. -/
lemma reports_check (c : Card) : Reports c.Violates c.check := by
  rw [check]
  split_ifs with nameless
  · refine ⟨[], .nameless (String.isEmpty_iff.mp nameless), fun earlier less => ?_⟩
    exact absurd less (List.not_lt_nil earlier)
  · refine (reports_verbs c.verbs).congr fun place defect => ?_
    constructor
    · rintro (empty | violated)
      · exact absurd (String.isEmpty_iff.mpr empty) nameless
      · exact violated
    · exact .verb

/-! ## One violation at a place -/

end Card

/-- At one place in a list there is one violation, if there is at one place in an item. -/
lemma Each.unique {α : Type} {violates : List α → α → List Nat → Defect → Prop} {items : List α}
    {place : List Nat} {defect defect' : Defect} (violated : Each violates items place defect)
    (violated' : Each violates items place defect')
    (unique : ∀ before x place defect defect', violates before x place defect →
      violates before x place defect' → defect = defect') : defect = defect' := by
  obtain ⟨there, violated⟩ := violated
  obtain ⟨there', violated'⟩ := violated'
  cases there.symm.trans there'
  exact unique _ _ _ _ _ violated violated'

/-- At one place an entity violates one rule. -/
lemma Entity.Violates.unique {verb : String} {kind : Kind} {before : List Entity} {e : Entity}
    {place : List Nat} {defect defect' : Defect}
    (violated : e.Violates verb kind before place defect)
    (violated' : e.Violates verb kind before place defect') : defect = defect' := by
  cases violated <;> cases violated' <;> rfl

/-- At one place a verb violates one rule. -/
lemma Verb.Violates.unique {before : List Verb} {v : Verb} {place : List Nat}
    {defect defect' : Defect} (violated : v.Violates before place defect)
    (violated' : v.Violates before place defect') : defect = defect' := by
  have ranked (kind : Kind) : kind.rank ≠ 0 := by cases kind <;> decide
  generalize same : place = place' at violated'
  cases violated with
  | nameless =>
    rcases violated' with _ | _ | _
    · rfl
    · cases same
    · exact absurd (List.cons.inj same).1.symm (ranked _)
  | repeated =>
    rcases violated' with _ | _ | _
    · cases same
    · rfl
    · exact absurd (List.cons.inj same).1.symm (ranked _)
  | @entity kind place _ violated =>
    rcases violated' with _ | _ | @⟨kind', place', _, violated'⟩
    · exact absurd (List.cons.inj same).1 (ranked _)
    · exact absurd (List.cons.inj same).1 (ranked _)
    · obtain ⟨rank, rfl⟩ := List.cons.inj same
      obtain rfl : kind = kind' := by
        revert rank
        cases kind <;> cases kind' <;> decide
      exact violated.unique violated' fun _ _ _ _ _ => Entity.Violates.unique

namespace Card

/-- There is at most one violation at a place. -/
lemma Violates.unique {place : List Nat} {defect defect' : Defect}
    (violated : c.Violates place defect) (violated' : c.Violates place defect') :
    defect = defect' := by
  cases violated with
  | nameless =>
    rcases violated' with _ | violated'
    · rfl
    · cases violated'
  | verb violated =>
    rcases violated' with _ | violated'
    · cases violated
    · exact violated.unique violated' fun _ _ _ _ _ => Verb.Violates.unique

/-- A description is accepted if it is valid. Otherwise the defect that is reported is the violation
at the first place: the name of the card comes first, then verb by verb its own name, its devices
and its modifiers, with these in the order of the description; a missing name comes before a repeated
one, and both before the priority. -/
theorem validate_eq_first :
    (c.validate = .ok () ↔ c.Valid) ∧
    ∀ fault, c.validate = .error fault ↔ ∃ place defect, fault = .configuration defect ∧
      c.Violates place defect ∧ ∀ earlier < place, ∀ other, ¬ c.Violates earlier other := by
  refine ⟨validate_iff, fun fault => ?_⟩
  have reports := c.reports_check
  rw [validate]
  cases checked : c.check with
  | ok u =>
    rw [checked] at reports
    refine iff_of_false (fun failed => by cases failed) ?_
    rintro ⟨place, defect, -, violated, -⟩
    exact reports place defect violated
  | error defect =>
    rw [checked] at reports
    obtain ⟨place, violated, none⟩ := reports
    constructor
    · intro failed
      exact ⟨place, defect, (Except.error.inj failed).symm, violated, none⟩
    · rintro ⟨place', defect', rfl, violated', none'⟩
      have late : ¬ place < place' := fun less => none' place less defect violated
      have late' : ¬ place' < place := fun less => none place' less defect' violated'
      obtain rfl : place = place' := List.le_antisymm late' late
      cases violated.unique violated'
      rfl

end Card

end UseCase
