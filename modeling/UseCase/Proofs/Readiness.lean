import Mathlib.Tactic.Common
import UseCase.Proofs.Admission

/-!
# What holds of every agenda

An operation that is not refused takes one of few courses (`agenda_course`), each with what was
found out before it: that the entity is there, that it is active or not, that it was checked. What
holds of every agenda is shown course by course.

An agenda is ready: each of its stages can be run when those before it were completed
(`agenda_chained`). Teardowns carry most of this, since they stop every active entity once and leave
the verb when nothing else is active. And where there is no agenda, the refusal names something that
is missing or a clash (`agenda_refuses`).
-/

namespace UseCase

/-- Faults with which an operation is refused before it does anything: something is missing, or
devices clash. -/
def Fault.OfRefusal : Fault → Prop
  | .notFound _ | .conflict _ _ => True
  | _ => False

namespace Rig

variable {c : Card} {a : Activation} {v : Verb} {kind : Kind}

/-! ## Readiness -/

/-- Stopping entities that are active, each once, is ready. -/
lemma chained_stops (active : (a.activeVerb? c).isSome) {indices : List Nat} (once : indices.Nodup)
    (members : ∀ i ∈ indices, i ∈ a.active kind) : Chained c a (indices.map (.stop kind)) := by
  induction indices generalizing a with
  | nil => trivial
  | cons index rest ih =>
    obtain ⟨alone, once⟩ := List.nodup_cons.mp once
    have active' : ((a.remove kind index).activeVerb? c).isSome := by
      rwa [Activation.remove, Activation.activeVerb?_setActive]
    refine ⟨⟨active, members index List.mem_cons_self⟩, ih active' once fun i member => ?_⟩
    refine Activation.mem_remove.mpr ⟨members i (List.mem_cons_of_mem index member), ?_⟩
    rintro rfl
    exact alone member

/-- Stopping the ranked entities of a kind leaves none of that kind. -/
lemma effects_stops_ranked (v : Verb) (kind : Kind) (a : Activation) :
    effects ((Ranking.rankBy (priorityAt v kind) (a.active kind)).map (.stop kind)) a =
      a.setActive kind [] := by
  rw [effects_stops]
  refine congrArg (a.setActive kind) (List.filter_eq_nil_iff.mpr fun i member => ?_)
  simpa [Ranking.mem_rankBy] using member

/-- Stopping the ranked entities of a kind is ready. -/
lemma chained_stops_ranked (fits : a.Fits c) (active : (a.activeVerb? c).isSome) (v : Verb)
    (kind : Kind) :
    Chained c a ((Ranking.rankBy (priorityAt v kind) (a.active kind)).map (.stop kind)) := by
  refine chained_stops active ?_ fun i member => ?_
  · exact (Ranking.rankBy_perm _).nodup_iff.mpr (fits.once kind)
  · exact Ranking.mem_rankBy.mp member

/-- Tearing down leaves the verb with all that is active. -/
lemma effects_teardown (v : Verb) (a : Activation) : effects (teardown v a) a = a.leave := by
  have devices : a.active .device = (a.setActive .modifier []).active .device := rfl
  rw [teardown, effects_append, effects_stops_ranked, devices, effects_append,
    effects_stops_ranked]
  rfl

/-- A teardown is ready. -/
lemma chained_teardown (fits : a.Fits c) (active : a.activeVerb? c = some v) :
    Chained c a (teardown v a) := by
  -- Stopping the modifiers leaves the devices as they are, so these can be ranked beforehand.
  have devices : a.active .device = (a.setActive .modifier []).active .device := rfl
  have some : (a.activeVerb? c).isSome := Option.isSome_of_eq_some active
  have fits' : (a.setActive .modifier []).Fits c := fits.setActive active nofun List.nodup_nil
  refine chained_append.mpr ⟨chained_stops_ranked fits some v .modifier, ?_⟩
  rw [effects_stops_ranked, devices]
  refine chained_append.mpr ⟨chained_stops_ranked fits' some v .device, ?_⟩
  rw [effects_stops_ranked]
  refine ⟨⟨some, fun kind => ?_⟩, trivial⟩
  cases kind <;> rfl

/-- An arrival consists of the defaults and of entering the verb. -/
lemma cases_of_mem_arrival {stage : Stage} {index : Nat} (member : stage ∈ arrival a index) :
    stage = .defaults ∨ stage = .enterVerb index := by
  rw [arrival] at member
  split_ifs at member
  · exact .inr (List.mem_singleton.mp member)
  · exact (List.mem_cons.mp member).imp_right List.mem_singleton.mp

/-- One entity takes the place of another through a transition, or it is started when that one was
stopped. -/
lemma cases_of_mem_handover {old new : Nat} {name : String} {stage : Stage}
    (member : stage ∈ handover a v kind old new name) :
    stage = .transition kind old new ∨ stage = .stop kind old ∨ stage = .start kind new := by
  rw [handover] at member
  cases way : (v.entity? kind old).bind fun e => e.transitionTo? name with
  | some s =>
    rw [way] at member
    exact .inl (List.mem_singleton.mp member)
  | none =>
    rw [way] at member
    refine .inr ((List.mem_cons.mp member).imp_right fun later => ?_)
    cases active : a.isActive kind new <;> simp_all

/-- Every stage of a departure is ready when it comes. -/
lemma chained_departure (fits : a.Fits c) : Chained c a (departure c a) := by
  rw [departure]
  cases active : a.activeVerb? c with
  | none => trivial
  | some v => exact chained_teardown fits active

/-- A departure leaves the verb, if one is active, and changes nothing if none is. -/
lemma effects_departure (fits : a.Fits c) : effects (departure c a) a = a.leave := by
  rw [departure]
  cases active : a.activeVerb? c with
  | some v => exact effects_teardown v a
  | none =>
    cases here : a.verb with
    | some index =>
      obtain ⟨v, -, active'⟩ := fits.activeVerb? here
      rw [active] at active'
      cases active'
    | none => exact (fits.leave_of_idle here).symm

/-- An arrival is ready when no verb is active. -/
lemma chained_arrival {index : Nat} (found : (c.verb? index).isSome) (idle : a.verb = none)
    (b : Activation) : Chained c a (arrival b index) := by
  rw [arrival]
  split
  · exact ⟨⟨found, idle⟩, trivial⟩
  · exact ⟨trivial, ⟨found, idle⟩, trivial⟩

/-- An entity counts as active exactly if its position is among the active ones. -/
lemma isActive_iff {index : Nat} : a.isActive kind index ↔ index ∈ a.active kind :=
  List.contains_iff_mem

/-- A handover is ready when the old entity is active and the new one is another. -/
lemma chained_handover (active : a.activeVerb? c = some v) {old new : Nat} (name : String)
    (member : old ∈ a.active kind) (inside : new < (v.entities kind).length) (other : new ≠ old) :
    Chained c a (handover a v kind old new name) := by
  have some : (a.activeVerb? c).isSome := Option.isSome_of_eq_some active
  rw [handover]
  split
  · exact ⟨⟨v, active, member, inside, other⟩, trivial⟩
  · refine ⟨⟨some, member⟩, ?_⟩
    split_ifs with newActive
    · trivial
    · refine ⟨⟨v, ?_, inside, fun staying => ?_⟩, trivial⟩
      · exact Activation.activeVerb?_setActive.trans active
      · exact newActive (isActive_iff.mpr (Activation.mem_remove.mp staying).1)

/-- The position of a named entity is inside of its list. -/
lemma lt_of_find? {name : String} {index : Nat} (sought : v.find? kind name = some index) :
    index < (v.entities kind).length := by
  obtain ⟨e, found, -⟩ := Verb.entity?_of_find? sought
  exact (List.getElem?_eq_some_iff.mp found).1

/-! ## The courses that operations take -/

/-- The stages of an operation that is not refused, with what was found out before. -/
inductive Course (c : Card) (a : Activation) : Operation → List Stage → Prop
  | fixedBoot : Course c a (.command .fixedBoot) [.fixedBoot]
  | boot : Course c a (.command .boot) [.boot]
  | defaults : Course c a (.command .defaults) [.defaults]
  | reset : Course c a .reset (departure c a ++ [.forget])
  | quit : Course c a (.command (.setVerb inactiveName)) (departure c a)
  | enter {name : String} {index : Nat} : name ≠ inactiveName → c.findVerb? name = some index →
    Course c a (.command (.setVerb name)) (departure c a ++ arrival a index)
  | enabled {v : Verb} {kind : Kind} {name : String} {index : Nat} : a.activeVerb? c = some v →
    v.find? kind name = some index → index ∈ a.active kind →
    Course c a (.command (.enable kind name)) []
  | enable {v : Verb} {kind : Kind} {name : String} {index : Nat} : a.activeVerb? c = some v →
    v.find? kind name = some index → index ∉ a.active kind →
    admission a v kind index none = .ok () →
    Course c a (.command (.enable kind name)) [.start kind index]
  | disabled {v : Verb} {kind : Kind} {name : String} {index : Nat} : a.activeVerb? c = some v →
    v.find? kind name = some index → index ∉ a.active kind →
    Course c a (.command (.disable kind name)) []
  | disable {v : Verb} {kind : Kind} {name : String} {index : Nat} : a.activeVerb? c = some v →
    v.find? kind name = some index → index ∈ a.active kind →
    Course c a (.command (.disable kind name)) [.stop kind index]
  /-- The old entity is not active, or it is the new one. -/
  | stay {v : Verb} {kind : Kind} {old new : String} {index : Nat} : a.activeVerb? c = some v →
    v.find? kind old = some index → index ∉ a.active kind ∨ v.find? kind new = some index →
    Course c a (.command (.switch kind old new)) []
  | switch {v : Verb} {kind : Kind} {old new : String} {i j : Nat} : a.activeVerb? c = some v →
    v.find? kind old = some i → i ∈ a.active kind → v.find? kind new = some j → j ≠ i →
    (j ∉ a.active kind → admission a v kind j (leaving kind i) = .ok ()) →
    Course c a (.command (.switch kind old new)) (handover a v kind i j new)

/-- The position that was answered is that of the name. -/
lemma find?_of_positionNeeded {name : String} {index : Nat}
    (asked : positionNeeded v kind name = .ok index) : v.find? kind name = some index := by
  rw [positionNeeded] at asked
  cases sought : v.find? kind name with
  | none =>
    rw [sought] at asked
    cases asked
  | some found =>
    rw [sought] at asked
    cases asked
    rfl

/-- An operation on a named entity that is not refused has found the active verb and the entity. -/
lemma exists_named {name : String} {next : Verb → Nat → Except Fault (List Stage)}
    {stages : List Stage}
    (planned : (do
      let v ← verbNeeded c a
      let index ← positionNeeded v kind name
      next v index) = .ok stages) :
    ∃ v index, a.activeVerb? c = some v ∧ v.find? kind name = some index ∧
      next v index = .ok stages := by
  obtain ⟨v, asked, planned⟩ := bind_eq_ok.mp planned
  obtain ⟨index, sought, planned⟩ := bind_eq_ok.mp planned
  exact ⟨v, index, active_of_verbNeeded asked, find?_of_positionNeeded sought, planned⟩

/-- Setting a verb goes inactive, or it enters the verb that was found. -/
lemma setVerb_course {name : String} {stages : List Stage}
    (planned : agenda c a (.command (.setVerb name)) = .ok stages) :
    Course c a (.command (.setVerb name)) stages := by
  rw [agenda] at planned
  split_ifs at planned with inactive
  · cases planned
    subst inactive
    exact .quit
  · cases sought : c.findVerb? name with
    | none =>
      rw [sought] at planned
      cases planned
    | some index =>
      rw [sought] at planned
      cases planned
      exact .enter inactive sought

/-- Enabling does nothing for an active entity, and starts another one that is admitted. -/
lemma enable_course {name : String} {stages : List Stage}
    (planned : agenda c a (.command (.enable kind name)) = .ok stages) :
    Course c a (.command (.enable kind name)) stages := by
  obtain ⟨v, index, active, found, planned⟩ := exists_named planned
  split_ifs at planned with on
  · cases planned
    exact .enabled active found (isActive_iff.mp on)
  · obtain ⟨u, checked, planned⟩ := bind_eq_ok.mp planned
    cases planned
    exact .enable active found (fun member => on (isActive_iff.mpr member)) checked

/-- Disabling stops an active entity, and does nothing for another one. -/
lemma disable_course {name : String} {stages : List Stage}
    (planned : agenda c a (.command (.disable kind name)) = .ok stages) :
    Course c a (.command (.disable kind name)) stages := by
  obtain ⟨v, index, active, found, planned⟩ := exists_named planned
  cases planned
  split_ifs with on
  · exact .disable active found (isActive_iff.mp on)
  · exact .disabled active found fun member => on (isActive_iff.mpr member)

/-- Switching does nothing if the old entity is not active or is the new one, and else hands over. -/
lemma switch_course {old new : String} {stages : List Stage}
    (planned : agenda c a (.command (.switch kind old new)) = .ok stages) :
    Course c a (.command (.switch kind old new)) stages := by
  obtain ⟨v, i, active, found, planned⟩ := exists_named planned
  cases on : a.isActive kind i with
  | false =>
    rw [on] at planned
    cases planned
    refine .stay active found (.inl fun member => ?_)
    rw [isActive_iff.mpr member] at on
    cases on
  | true =>
    -- The new entity is only looked up now, so its name may be unknown above.
    rw [on, if_pos rfl] at planned
    obtain ⟨j, sought, planned⟩ := bind_eq_ok.mp planned
    have found' := find?_of_positionNeeded sought
    by_cases same : j = i
    · rw [if_pos same] at planned
      cases planned
      exact .stay active found (.inr (same ▸ found'))
    · have course := Course.switch (c := c) active found (isActive_iff.mp on) found' same
      rw [if_neg same] at planned
      cases on' : a.isActive kind j with
      | true =>
        rw [on'] at planned
        cases planned
        exact course fun absent => absurd (isActive_iff.mp on') absent
      | false =>
        rw [on'] at planned
        obtain ⟨u, checked, planned⟩ := bind_eq_ok.mp planned
        cases planned
        exact course fun _ => checked

/-- An operation that is not refused takes one of the courses. -/
lemma agenda_course {op : Operation} {stages : List Stage} (planned : agenda c a op = .ok stages) :
    Course c a op stages := by
  cases op with
  | reset =>
    cases planned
    exact .reset
  | command command =>
    cases command with
    | fixedBoot =>
      cases planned
      exact .fixedBoot
    | boot =>
      cases planned
      exact .boot
    | defaults =>
      cases planned
      exact .defaults
    | setVerb name => exact setVerb_course planned
    | enable kind name => exact enable_course planned
    | disable kind name => exact disable_course planned
    | switch kind old new => exact switch_course planned

/-- The stages of an agenda are ready when their turn comes. -/
theorem agenda_chained (fits : a.Fits c) {op : Operation} {stages : List Stage}
    (planned : agenda c a op = .ok stages) : Chained c a stages := by
  cases agenda_course planned with
  | fixedBoot | boot | defaults => exact ⟨trivial, trivial⟩
  | reset => exact chained_append.mpr ⟨chained_departure fits, trivial, trivial⟩
  | quit => exact chained_departure fits
  | enter _ sought =>
    obtain ⟨v, found, -⟩ := Card.verb?_of_findVerb? sought
    refine chained_append.mpr ⟨chained_departure fits, ?_⟩
    rw [effects_departure fits]
    exact chained_arrival (Option.isSome_of_eq_some found) rfl a
  | enabled | disabled | stay => trivial
  | enable active found absent => exact ⟨⟨_, active, lt_of_find? found, absent⟩, trivial⟩
  | disable active _ on => exact ⟨⟨Option.isSome_of_eq_some active, on⟩, trivial⟩
  | switch active _ on found' other => exact chained_handover active _ on (lt_of_find? found') other

/-! ## Refusals -/

/-- An answer that is a refusal if it is a failure. -/
def Refuses {α : Type} (x : Except Fault α) : Prop :=
  ∀ f, x = .error f → f.OfRefusal

namespace Refuses

variable {α β : Type}

/-- An answer without a failure refuses nothing. -/
lemma ok (a : α) : Refuses (.ok a) := fun f failed => by cases failed

/-- Answers that refuse in a row refuse together. -/
lemma bind {x : Except Fault α} {f : α → Except Fault β} (first : Refuses x)
    (next : ∀ a, Refuses (f a)) : Refuses (x >>= f) := by
  intro fault failed
  rcases bind_eq_error.mp failed with failed | ⟨a, -, failed⟩
  · exact first fault failed
  · exact next a fault failed

/-- That there is no active verb is a refusal. -/
lemma verbNeeded (c : Card) (a : Activation) : Refuses (verbNeeded c a) := by
  intro f failed
  rw [Rig.verbNeeded] at failed
  split at failed <;> cases failed
  trivial

/-- That there is no entity with a name is a refusal. -/
lemma positionNeeded (v : Verb) (kind : Kind) (name : String) :
    Refuses (positionNeeded v kind name) := by
  intro f failed
  rw [Rig.positionNeeded] at failed
  split at failed <;> cases failed
  trivial

/-- An entity that clashes with others is refused. -/
lemma admission (a : Activation) (v : Verb) (kind : Kind) (index : Nat) (leaving : Option Nat) :
    Refuses (admission a v kind index leaving) := by
  intro f failed
  rw [Rig.admission] at failed
  split at failed
  · rw [Entity.checkBeside] at failed
    split at failed <;> cases failed
    trivial
  · cases failed

end Refuses

/-- An operation without an agenda is refused because something is missing or because devices
clash. -/
theorem agenda_refuses (op : Operation) : Refuses (agenda c a op) := by
  cases op with
  | reset => exact .ok _
  | command command =>
    cases command with
    | fixedBoot | boot | defaults => exact .ok _
    | setVerb name =>
      rw [agenda]
      split_ifs
      · exact .ok _
      · cases c.findVerb? name with
        | some index => exact .ok _
        | none =>
          intro f failed
          cases failed
          trivial
    | enable kind name =>
      refine .bind (.verbNeeded c a) fun v => .bind (.positionNeeded v kind name) fun index => ?_
      split_ifs
      · exact .ok _
      · exact .bind (.admission a v kind index none) fun _ => .ok _
    | disable kind name =>
      exact .bind (.verbNeeded c a) fun v => .bind (.positionNeeded v kind name) fun index => .ok _
    | switch kind old new =>
      refine .bind (.verbNeeded c a) fun v => .bind (.positionNeeded v kind old) fun oldIndex => ?_
      cases a.isActive kind oldIndex with
      | false => exact .ok _
      | true =>
        refine .bind (.positionNeeded v kind new) fun newIndex => ?_
        by_cases same : newIndex = oldIndex
        · rw [if_pos same]
          exact .ok _
        · rw [if_neg same]
          cases a.isActive kind newIndex with
          | true => exact .ok _
          | false => exact .bind (.admission a v kind newIndex _) fun _ => .ok _

end Rig

end UseCase
