import Mathlib.Data.List.Nodup
import Mathlib.Tactic.Common
import UseCase.Proofs.Reachable
import UseCase.Recorder
import UseCase.Sample

/-!
# The order of activation

The lists of an activation stand in the order in which their entities became active, and this order
decides between equal priorities. An operation does one of three things to a list (`Rearranged`): it
takes entities out; it does so and adds one at the end; or it puts one into the place of another, to
which a sequence leads directly. The stages that take entities out are most of all stages, and those
that do not are all about the same kind.

The main statement `Activation.Reachable.keeps_order` says of every operation, however it ends, what
becomes of the order, and which parts of the activation the operation leaves alone.
-/

namespace UseCase

namespace Rig

variable {σ : Type} {c : Card} {a : Activation} {v : Verb} {kind other : Kind} {op : Operation}
variable {stages done : List Stage} {i j : Nat}

/-! ## Lists in the same order -/

/-- The members of a list that satisfy `p` are a given sublist if these are its members. -/
lemma filter_eq_of_sublist {p : Nat → Bool} {chosen items : List Nat} (once : items.Nodup)
    (among : chosen.Sublist items) (members : ∀ x ∈ items, p x ↔ x ∈ chosen) :
    items.filter p = chosen := by
  induction among with
  | slnil => rfl
  | @cons chosen rest x among ih =>
    obtain ⟨alone, once⟩ := List.nodup_cons.mp once
    have out : ¬ p x := fun good =>
      alone (among.subset ((members x List.mem_cons_self).mp good))
    rw [List.filter_cons_of_neg out]
    exact ih once fun y member => members y (List.mem_cons_of_mem x member)
  | @cons_cons chosen rest x among ih =>
    obtain ⟨alone, once⟩ := List.nodup_cons.mp once
    have good : p x := (members x List.mem_cons_self).mpr List.mem_cons_self
    rw [List.filter_cons_of_pos good]
    refine congrArg (x :: ·) (ih once fun y member => ?_)
    have differs : y ≠ x := by
      rintro rfl
      exact alone member
    rw [members y (List.mem_cons_of_mem x member), List.mem_cons, or_iff_right differs]

/-- Two lists have their common members in the same order. -/
def SameOrder (before after : List Nat) : Prop :=
  after.filter (· ∈ before) = before.filter (· ∈ after)

/-- Two lists have their common members in the same order if all these are in a sublist of both. -/
lemma SameOrder.of_sublist {before after common : List Nat} (once : before.Nodup)
    (once' : after.Nodup) (left : common.Sublist before) (right : common.Sublist after)
    (all : ∀ x ∈ before, x ∈ after → x ∈ common) : SameOrder before after := by
  have chosen : after.filter (· ∈ before) = common := by
    refine filter_eq_of_sublist once' right fun x member => ?_
    rw [decide_eq_true_iff]
    exact ⟨fun earlier => all x earlier member, fun shared => left.subset shared⟩
  have chosen' : before.filter (· ∈ after) = common := by
    refine filter_eq_of_sublist once left fun x member => ?_
    rw [decide_eq_true_iff]
    exact ⟨fun later => all x member later, fun shared => right.subset shared⟩
  exact chosen.trans chosen'.symm

/-! ## What becomes of a list -/

/-- What an operation may make of a list, where `direct` says which entities it may put into the
place of which. -/
inductive Rearranged (direct : Nat → Nat → Prop) (before : List Nat) : List Nat → Prop
  | thinned {after : List Nat} : after.Sublist before → Rearranged direct before after
  | joined {staying : List Nat} {new : Nat} : staying.Sublist before → new ∉ before →
    (∀ old, ¬ direct old new) → Rearranged direct before (staying ++ [new])
  | replaced {front back : List Nat} {old new : Nat} : before = front ++ old :: back →
    new ∉ before → direct old new → Rearranged direct before (front ++ new :: back)

namespace Rearranged

variable {direct : Nat → Nat → Prop} {before after : List Nat}

/-- What stays keeps its order. -/
lemma sameOrder (rearranged : Rearranged direct before after) (once : before.Nodup)
    (once' : after.Nodup) : SameOrder before after := by
  cases rearranged with
  | thinned among =>
    exact .of_sublist once once' among (List.Sublist.refl _) fun x _ later => later
  | @joined staying new among absent _ =>
    refine .of_sublist once once' among (List.sublist_append_left _ _) fun x earlier later => ?_
    rcases List.mem_append.mp later with stays | last
    · exact stays
    · rw [List.mem_singleton.mp last] at earlier
      exact absurd earlier absent
  | @replaced front back old new split absent _ =>
    subst split
    have common (x : Nat) : (front ++ back).Sublist (front ++ x :: back) :=
      (List.Sublist.refl front).append (List.sublist_cons_self x back)
    refine .of_sublist once once' (common old) (common new) fun x earlier later => ?_
    rw [List.mem_append, List.mem_cons] at later
    rcases later with inFront | rfl | inBack
    · exact List.mem_append_left _ inFront
    · exact absurd earlier absent
    · exact List.mem_append_right _ inBack

/-- A new member without a place to take is the last one. -/
lemma last (rearranged : Rearranged direct before after) (later : j ∈ after) (new : j ∉ before)
    (nowhere : ∀ old, ¬ direct old j) :
    ∃ staying, staying.Sublist before ∧ after = staying ++ [j] := by
  cases rearranged with
  | thinned among => exact absurd (among.subset later) new
  | @joined staying k among _ _ =>
    rcases List.mem_append.mp later with stays | last
    · exact absurd (among.subset stays) new
    · rw [List.mem_singleton.mp last]
      exact ⟨staying, among, rfl⟩
  | @replaced front back old k split _ leads =>
    subst split
    rw [List.mem_append, List.mem_cons] at later new
    rcases later with inFront | rfl | inBack
    · exact absurd (.inl inFront) new
    · exact absurd leads (nowhere old)
    · exact absurd (.inr (.inr inBack)) new

/-- A new member that has a place to take is in that place. -/
lemma place (rearranged : Rearranged direct before after) (later : j ∈ after) (new : j ∉ before)
    (leads : direct i j) (alone : ∀ old, direct old j → old = i) :
    ∃ front back, before = front ++ i :: back ∧ after = front ++ j :: back := by
  cases rearranged with
  | thinned among => exact absurd (among.subset later) new
  | @joined staying k among _ nowhere =>
    rcases List.mem_append.mp later with stays | last
    · exact absurd (among.subset stays) new
    · rw [List.mem_singleton.mp last] at leads
      exact absurd leads (nowhere i)
  | @replaced front back old k split _ leads' =>
    subst split
    rw [List.mem_append, List.mem_cons] at later new
    rcases later with inFront | rfl | inBack
    · exact absurd (.inl inFront) new
    · rw [alone old leads']
      exact ⟨front, back, rfl, rfl⟩
    · exact absurd (.inr (.inr inBack)) new

end Rearranged

/-! ## Stages that take entities out, and stages about one kind -/

/-- Whether a stage makes no entity active. -/
def Stage.Thins : Stage → Prop
  | start _ _ | transition _ _ _ => False
  | _ => True

/-- Whether a stage is about entities of a kind. -/
def Stage.About (kind : Kind) : Stage → Prop
  | start k _ | stop k _ | transition k _ _ => k = kind
  | _ => False

/-- Stages that only take entities out leave the others in their order. -/
lemma Stage.Thins.sublist {stage : Stage} (thins : stage.Thins) (kind : Kind) (a : Activation) :
    ((stage.effect a).active kind).Sublist (a.active kind) := by
  cases stage with
  | fixedBoot | boot => exact List.Sublist.refl _
  | defaults | forget | enterVerb index => cases kind <;> exact List.Sublist.refl _
  | leaveVerb =>
    rw [Stage.effect, Activation.active_leave]
    exact List.nil_sublist _
  | stop k index =>
    rw [Stage.effect, Activation.remove, Activation.active_setActive]
    split_ifs with same
    · rw [same]
      exact List.filter_sublist
    · exact List.Sublist.refl _
  | start => exact thins.elim
  | transition => exact thins.elim

/-- Stages that make no entity active leave a part of every list. -/
lemma sublist_effects (thins : ∀ stage ∈ stages, stage.Thins) (kind : Kind) (a : Activation) :
    ((effects stages a).active kind).Sublist (a.active kind) := by
  induction stages generalizing a with
  | nil => exact List.Sublist.refl _
  | cons stage rest ih =>
    have later := ih (fun s member => thins s (List.mem_cons_of_mem stage member)) (stage.effect a)
    exact later.trans ((thins stage List.mem_cons_self).sublist kind a)

/-- Stages that make no entity active keep the verb, or else nothing is active any more. -/
lemma verb_effects (fits : a.Fits c) (chained : Chained c a stages)
    (thins : ∀ stage ∈ stages, stage.Thins) :
    (effects stages a).verb = a.verb ∨ ∀ kind, (effects stages a).active kind = [] := by
  induction stages generalizing a with
  | nil => exact .inl rfl
  | cons stage rest ih =>
    have later := fun s member => thins s (List.mem_cons_of_mem stage member)
    have next := ih (chained.1.fits fits) chained.2 later
    -- Where nothing is active, such stages do not change that.
    have nothing (empty : ∀ kind, (stage.effect a).active kind = []) (kind : Kind) :
        (effects rest (stage.effect a)).active kind = [] :=
      List.sublist_nil.mp (empty kind ▸ sublist_effects later kind (stage.effect a))
    cases stage with
    | fixedBoot | boot | defaults | forget => exact next
    | enterVerb index =>
      refine .inr (nothing fun kind => ?_)
      rw [Stage.effect, Activation.active_enter]
      exact fits.idle chained.1.2 kind
    | leaveVerb => exact .inr (nothing fun kind => Activation.active_leave)
    | stop kind index =>
      have same : (a.remove kind index).verb = a.verb := Activation.verb_setActive
      exact next.imp_left fun kept => kept.trans same
    | start => exact (thins _ List.mem_cons_self).elim
    | transition => exact (thins _ List.mem_cons_self).elim

/-- Stages about one kind replace the entities of that kind. -/
lemma effects_about (about : ∀ stage ∈ stages, stage.About kind) (a : Activation) :
    ∃ indices, effects stages a = a.setActive kind indices := by
  induction stages generalizing a with
  | nil => exact ⟨a.active kind, Activation.setActive_active.symm⟩
  | cons stage rest ih =>
    obtain ⟨indices, later⟩ :=
      ih (fun s member => about s (List.mem_cons_of_mem stage member)) (stage.effect a)
    have here : stage.About kind := about stage List.mem_cons_self
    suffices first : ∃ others, stage.effect a = a.setActive kind others by
      obtain ⟨others, first⟩ := first
      refine ⟨indices, later.trans ?_⟩
      rw [first, Activation.setActive_setActive]
    cases stage with
    | start k index | stop k index =>
      cases here
      exact ⟨_, rfl⟩
    | transition k old new =>
      cases here
      rw [Stage.effect]
      split_ifs
      · exact ⟨_, rfl⟩
      · exact ⟨_, rfl⟩
    | _ => exact here.elim

/-! ## Courses -/

/-- The kind of the entities that an operation is about, if it is about entities. -/
def Operation.kind? : Operation → Option Kind
  | .command (.enable kind _) | .command (.disable kind _) | .command (.switch kind _ _) =>
    some kind
  | _ => none

/-- Whether an operation is a switch between entities of the active verb, from the one at `i` to the
one at `j`, and a sequence leads directly from one to the other. -/
inductive Direct (c : Card) (a : Activation) (kind : Kind) (i j : Nat) : Operation → Prop
  | intro {v : Verb} {old new : String} {e : Entity} {s : Sequence} : a.activeVerb? c = some v →
    v.find? kind old = some i → v.find? kind new = some j → v.entity? kind i = some e →
    e.transitionTo? new = some s → Direct c a kind i j (.command (.switch kind old new))

/-- What a direct switch says of the active verb. -/
lemma Direct.named {old new : String}
    (direct : Direct c a kind i j (.command (.switch other old new)))
    (active : a.activeVerb? c = some v) : v.find? kind old = some i ∧ v.find? kind new = some j ∧
      ∃ s, ((v.entity? kind i).bind fun e => e.transitionTo? new) = some s := by
  obtain ⟨active', here, there, found, leads⟩ := direct
  rw [active] at active'
  cases active'
  exact ⟨here, there, _, Option.bind_eq_some_iff.mpr ⟨_, found, leads⟩⟩

/-- A direct switch has one entity that it replaces. -/
lemma Direct.unique {i' j' : Nat} (direct : Direct c a kind i j op)
    (direct' : Direct c a kind i' j' op) : i' = i := by
  obtain ⟨active, here, -, -, -⟩ := direct
  exact Option.some.inj ((direct'.named active).1.symm.trans here)

/-- Which switches are direct depends on the verb that is active. -/
lemma Direct.congr {a' : Activation} (direct : Direct c a kind i j op)
    (same : a'.activeVerb? c = a.activeVerb? c) : Direct c a' kind i j op := by
  obtain ⟨active, here, there, found, leads⟩ := direct
  exact ⟨same.trans active, here, there, found, leads⟩

/-- Where no sequence leads from the entity that is to be replaced, a switch is not direct. -/
lemma not_direct {old new : String} {i' j' : Nat} (active : a.activeVerb? c = some v)
    (here : v.find? kind old = some i)
    (indirect : ((v.entity? kind i).bind fun e => e.transitionTo? new) = none) :
    ¬ Direct c a kind i' j' (.command (.switch kind old new)) := by
  intro direct
  obtain ⟨here', -, s, leads⟩ := direct.named active
  rw [here] at here'
  cases here'
  rw [indirect] at leads
  cases leads

/-- An operation that is not about entities makes none active. -/
lemma Course.thins (course : Course c a op stages) (general : op.kind? = none) :
    ∀ stage ∈ stages, stage.Thins := by
  have departing (stage : Stage) (member : stage ∈ departure c a) : stage.Thins := by
    rcases cases_of_mem_departure member with ⟨kind, index, rfl⟩ | rfl
    · trivial
    · trivial
  cases course with
  | fixedBoot | boot | defaults =>
    intro stage member
    rw [List.mem_singleton.mp member]
    trivial
  | reset =>
    intro stage member
    rcases List.mem_append.mp member with left | last
    · exact departing stage left
    · rw [List.mem_singleton.mp last]
      trivial
  | quit => exact departing
  | enter =>
    intro stage member
    rcases List.mem_append.mp member with left | entered
    · exact departing stage left
    · rcases cases_of_mem_arrival entered with rfl | rfl
      · trivial
      · trivial
  | enabled | enable | disabled | disable | stay | switch => cases general

/-- An operation about entities of a kind touches that kind only. -/
lemma Course.about (course : Course c a op stages) (meant : op.kind? = some kind) :
    ∀ stage ∈ stages, stage.About kind := by
  cases course with
  | enabled | disabled | stay => exact fun stage member => absurd member List.not_mem_nil
  | enable | disable =>
    intro stage member
    rw [List.mem_singleton.mp member]
    exact Option.some.inj meant
  | switch =>
    intro stage member
    rcases cases_of_mem_handover member with rfl | rfl | rfl <;> exact Option.some.inj meant
  | fixedBoot | boot | defaults | reset | quit | enter => cases meant

/-- The stages of an operation about entities keep the verb. -/
lemma Course.activeVerb? (course : Course c a op stages) (meant : op.kind? = some kind) :
    (effects stages a).activeVerb? c = a.activeVerb? c := by
  obtain ⟨indices, same⟩ := effects_about (course.about meant) a
  rw [same, Activation.activeVerb?_setActive]

/-- What a handover makes of the list of its kind, wherever it ends. -/
lemma rearranged_handover {old new : String} (active : a.activeVerb? c = some v)
    (here : v.find? kind old = some i) (on : i ∈ a.active kind)
    (there : v.find? kind new = some j) (begun : done <+: handover a v kind i j new) :
    Rearranged (fun i j => Direct c a kind i j (.command (.switch kind old new)))
      (a.active kind) ((effects done a).active kind) := by
  have unchanged : Rearranged (fun i j => Direct c a kind i j (.command (.switch kind old new)))
      (a.active kind) (a.active kind) := .thinned (List.Sublist.refl _)
  have thins : (Stage.stop kind i).Thins := trivial
  have removed : ((a.remove kind i).active kind).Sublist (a.active kind) := thins.sublist kind a
  rw [handover] at begun
  cases way : (v.entity? kind i).bind fun e => e.transitionTo? new with
  | some s =>
    rw [way] at begun
    rcases begun_single begun with rfl | rfl
    · exact unchanged
    · change Rearranged _ _ ((Stage.effect (.transition kind i j) a).active kind)
      rw [Stage.effect]
      split_ifs with newActive
      -- The new entity keeps the place that it has, if it is active already.
      · exact .thinned removed
      · obtain ⟨e, found, leads⟩ := Option.bind_eq_some_iff.mp way
        obtain ⟨front, back, split, first⟩ := List.eq_append_cons_of_mem on
        rw [Activation.active_replace_of_split first split]
        exact .replaced split (fun member => newActive (isActive_iff.mpr member))
          ⟨active, here, there, found, leads⟩
  | none =>
    rw [way] at begun
    rcases List.prefix_cons_iff.mp begun with rfl | ⟨rest, rfl, later⟩
    · exact unchanged
    · split_ifs at later with newActive
      · rw [List.prefix_nil.mp later]
        exact .thinned removed
      · rcases begun_single later with rfl | rfl
        · exact .thinned removed
        · change Rearranged _ _ (((a.remove kind i).add kind j).active kind)
          rw [Activation.add, Activation.active_setActive_self]
          exact .joined removed (fun member => newActive (isActive_iff.mpr member))
            fun _ => not_direct active here way

/-- What an operation makes of a list, wherever it ends. -/
lemma Course.rearranges (course : Course c a op stages) (begun : done <+: stages) (kind : Kind) :
    Rearranged (fun i j => Direct c a kind i j op) (a.active kind)
      ((effects done a).active kind) := by
  have thinning (thins : ∀ stage ∈ stages, stage.Thins) :
      Rearranged (fun i j => Direct c a kind i j op) (a.active kind)
        ((effects done a).active kind) :=
    .thinned (sublist_effects (fun stage member => thins stage (begun.subset member)) kind a)
  have general (none : op.kind? = none) := thinning (course.thins none)
  -- The list of the other kind stays as it is.
  have aside {k : Kind} (meant : op.kind? = some k) (differs : kind ≠ k) :
      (effects done a).active kind = a.active kind := by
    obtain ⟨indices, same⟩ :=
      effects_about (fun stage member => course.about meant stage (begun.subset member)) a
    rw [same, Activation.active_setActive_of_ne differs]
  cases course with
  | fixedBoot | boot | defaults | reset | quit | enter => exact general rfl
  | enabled | disabled | stay =>
    exact thinning fun stage member => absurd member List.not_mem_nil
  | disable =>
    refine thinning fun stage member => ?_
    rw [List.mem_singleton.mp member]
    trivial
  | @enable _ k _ index active found absent _ =>
    by_cases same : kind = k
    · subst same
      rcases begun_single begun with rfl | rfl
      · exact .thinned (List.Sublist.refl _)
      · change Rearranged _ _ ((a.add kind index).active kind)
        rw [Activation.add, Activation.active_setActive_self]
        exact .joined (List.Sublist.refl _) absent fun old direct => by cases direct
    · rw [aside rfl same]
      exact .thinned (List.Sublist.refl _)
  | @switch _ k _ _ i j active here on there _ _ =>
    by_cases same : kind = k
    · subst same
      exact rearranged_handover active here on there begun
    · rw [aside rfl same]
      exact .thinned (List.Sublist.refl _)

/-- A direct switch that succeeds from an active entity to one that was not active puts this into the
place of the other. -/
lemma Direct.replaces {b : Backend σ} {rig rig' : Rig σ} {u : Unit}
    (direct : Direct c rig.activation kind i j op) (fits : rig.activation.Fits c)
    (on : i ∈ rig.activation.active kind) (off : j ∉ rig.activation.active kind)
    (done : perform b c op rig = .ok u rig') :
    rig'.activation = rig.activation.replace kind i j := by
  obtain ⟨stages, planned, ended⟩ := agenda_of_ok fits done
  obtain ⟨old, new, rfl⟩ : ∃ old new, op = .command (.switch kind old new) := by
    obtain ⟨-, -, -, -, -⟩ := direct
    exact ⟨_, _, rfl⟩
  rw [ended]
  cases agenda_course planned with
  | stay active here' idle =>
    obtain ⟨here, there, -⟩ := direct.named active
    rw [here] at here'
    cases here'
    rcases idle with off' | same
    · exact absurd on off'
    · rw [there] at same
      cases same
      exact absurd on off
  | switch active here' _ there' _ _ =>
    obtain ⟨here, there, s, leads⟩ := direct.named active
    rw [here] at here'
    cases here'
    rw [there] at there'
    cases there'
    rw [handover, leads]
    change Stage.effect (.transition kind i j) rig.activation = _
    rw [Stage.effect, if_neg fun active => off (isActive_iff.mp active)]

/-! ## Operations -/

/-- What an operation keeps of an activation and of the order in its lists. -/
structure Orderly (c : Card) (op : Operation) (a a' : Activation) : Prop where
  /-- Positions mean the same entities before and after, unless nothing is active any more. -/
  verb : a'.verb = a.verb ∨ ∀ kind, a'.active kind = []
  once : ∀ kind, (a.active kind).Nodup ∧ (a'.active kind).Nodup
  /-- What is active before and after is in the same order. -/
  order : ∀ kind, SameOrder (a.active kind) (a'.active kind)
  /-- What becomes active is the last of its list, behind what stays active. -/
  last : ∀ kind j, j ∈ a'.active kind → j ∉ a.active kind → (∀ i, ¬ Direct c a kind i j op) →
    ∃ staying, staying.Sublist (a.active kind) ∧ a'.active kind = staying ++ [j]
  /-- What becomes active in a direct switch is where the old entity was. -/
  place : ∀ kind i j, j ∈ a'.active kind → j ∉ a.active kind → Direct c a kind i j op →
    ∃ front back, a.active kind = front ++ i :: back ∧ a'.active kind = front ++ j :: back
  /-- An operation on entities of a kind changes the list of that kind and nothing else. -/
  kind : ∀ kind, op.kind? = some kind → a' = a.setActive kind (a'.active kind)
  /-- Starting the system up changes nothing. -/
  boot : op = .command .fixedBoot ∨ op = .command .boot → a' = a
  /-- Running the defaults changes nothing but whether they were run. -/
  defaults : op = .command .defaults → a' = a ∨ a' = { a with defaultsApplied := true }

/-- The first stages of an agenda keep the order of activation. -/
lemma orderly_effects (fits : a.Fits c) (planned : agenda c a op = .ok stages)
    (begun : done <+: stages) : Orderly c op a (effects done a) := by
  have course := agenda_course planned
  have chained := (agenda_chained fits planned).beginning begun
  have once (kind : Kind) : (a.active kind).Nodup ∧ ((effects done a).active kind).Nodup :=
    ⟨fits.once kind, (chained.fits fits List.prefix_rfl).once kind⟩
  have aside {k : Kind} (meant : op.kind? = some k) :
      ∃ indices, effects done a = a.setActive k indices :=
    effects_about (fun stage member => course.about meant stage (begun.subset member)) a
  refine ⟨?verb, once, ?order, ?last, ?place, ?kind, ?boot, ?defaults⟩
  case verb =>
    cases general : op.kind? with
    | none =>
      -- An operation that is not about entities only ever takes them away.
      exact verb_effects fits chained fun stage member =>
        course.thins general stage (begun.subset member)
    | some kind =>
      obtain ⟨indices, same⟩ := aside general
      rw [same]
      exact .inl Activation.verb_setActive
  case order =>
    intro kind
    exact (course.rearranges begun kind).sameOrder (once kind).1 (once kind).2
  case last =>
    intro kind j later new nowhere
    exact (course.rearranges begun kind).last later new nowhere
  case place =>
    intro kind i j later new direct
    exact (course.rearranges begun kind).place later new direct fun k => direct.unique
  case kind =>
    intro kind meant
    obtain ⟨indices, same⟩ := aside meant
    rw [same, Activation.active_setActive_self]
  case boot =>
    rintro (rfl | rfl)
    · cases planned
      rcases begun_single begun with rfl | rfl <;> rfl
    · cases planned
      rcases begun_single begun with rfl | rfl <;> rfl
  case defaults =>
    rintro rfl
    cases planned
    rcases begun_single begun with rfl | rfl
    · exact .inl rfl
    · exact .inr rfl

/-- What does nothing keeps the order of activation. -/
lemma Orderly.refl (fits : a.Fits c) (op : Operation) : Orderly c op a a where
  verb := .inl rfl
  once kind := ⟨fits.once kind, fits.once kind⟩
  order _ := rfl
  last _ _ later new _ := absurd later new
  place _ _ _ later new _ := absurd later new
  kind _ _ := Activation.setActive_active.symm
  boot _ := rfl
  defaults _ := .inl rfl

end Rig

namespace Activation

variable {σ : Type} {c : Card} {a : Activation}

/-- No operation disturbs the order of activation, on whatever control surface, whatever its
sequences call and however it ends. What is active before and after is in the same order. What
becomes active is the last of its list, except that a direct switch puts the new entity where the
old one was; and so it does whenever it succeeds from an active entity to one that was not active.
An operation on entities of a kind leaves the other kind, the verb and the mark of the defaults as
they were; starting the system up leaves everything, and running the defaults all but the mark. -/
theorem Reachable.keeps_order (reached : a.Reachable c) (b : Backend σ) (op : Rig.Operation)
    (surface : σ) :
    let ended := Rig.perform b c op ⟨a, surface⟩
    Rig.Orderly c op a (after ended).activation ∧
    ∀ kind i j, Rig.Direct c a kind i j op → i ∈ a.active kind → j ∉ a.active kind →
      answer ended = .ok () → j ∈ (after ended).activation.active kind := by
  intro ended
  let rig : Rig σ := ⟨a, surface⟩
  have fits : rig.activation.Fits c := reached.fits
  refine ⟨?_, fun kind i j direct on off good => ?_⟩
  · have stands : (after ended).activation = Rig.effects (Rig.log b c op rig) a :=
      Rig.perform_activation fits op
    rw [stands]
    rcases Rig.log_begins b c op rig with nothing | ⟨stages, planned, begun⟩
    · rw [nothing]
      exact .refl fits op
    · exact Rig.orderly_effects fits planned begun
  · have direct : Rig.Direct c rig.activation kind i j op := direct
    have replaced : (after ended).activation = a.replace kind i j :=
      direct.replaces fits on off (eq_ok_of_answer good)
    rw [replaced]
    exact (mem_replace (fits.once kind) on).mpr (.inr rfl)

/-- A verb in which the way from the speaker to the headphones calls the sequence that disables the
microphone. -/
def wiredVerb : Verb :=
  { Verb.plain "HiFi" with
    devices := [
      { Sample.entity .device "Speaker" 10 with
        transitions := [("Headphones", [.call .device "Mic" .disable])] },
      Sample.entity .device "Headphones" 20,
      Sample.entity .device "Mic" 5]
    modifiers := [Sample.entity .modifier "Play Tone" 100] }

/-- A card with this verb. -/
def wiredCard : Card := { Sample.card with verbs := [wiredVerb] }

/-- The speaker can be active before the microphone, and a modifier with them. -/
lemma wired_reachable : Activation.Reachable wiredCard ⟨some 0, [0, 2], [0], true⟩ := by
  have verb : Activation.Reachable wiredCard ⟨some 0, [], [], true⟩ :=
    .led .fresh Recorder.backend (.command (.setVerb "HiFi")) .fresh (by decide)
  have speaker : Activation.Reachable wiredCard ⟨some 0, [0], [], true⟩ :=
    verb.led Recorder.backend (.command (.enable .device "Speaker")) .fresh (by decide)
  have microphone : Activation.Reachable wiredCard ⟨some 0, [0, 2], [], true⟩ :=
    speaker.led Recorder.backend (.command (.enable .device "Mic")) .fresh (by decide)
  exact microphone.led Recorder.backend (.command (.enable .modifier "Play Tone")) .fresh
    (by decide)

/-- The headphones are put where the speaker was, before the microphone, which stays active though
its sequence was called. -/
theorem order_when_wired :
    let a : Activation := ⟨some 0, [0, 2], [0], true⟩
    let op : Rig.Operation := .command (.switch .device "Speaker" "Headphones")
    let ended := Rig.perform Recorder.backend wiredCard op ⟨a, .fresh⟩
    a.Reachable wiredCard ∧ Rig.Direct wiredCard a .device 0 1 op ∧ answer ended = .ok () ∧
    Rig.Orderly wiredCard op a (after ended).activation ∧
    1 ∈ (after ended).activation.active .device ∧
    (after ended).activation = ⟨some 0, [1, 2], [0], true⟩ := by
  intro a op ended
  have direct : Rig.Direct wiredCard a .device 0 1 op :=
    .intro rfl (by decide) (by decide) rfl rfl
  have good : answer ended = .ok () := by decide
  obtain ⟨orderly, enters⟩ := wired_reachable.keeps_order Recorder.backend op Recorder.fresh
  have entered := enters .device 0 1 direct (by decide) (by decide) good
  exact ⟨wired_reachable, direct, good, orderly, entered, by decide⟩

end Activation

end UseCase
