import UseCase.Proofs.Desk
import UseCase.Proofs.Exchange
import UseCase.Proofs.Stepwise
import UseCase.Sample

/-!
# A mixer boots once

Only the start-up of a machine makes a desk take a snapshot, since every other operation is made of
steps. So once a start-up succeeded, the snapshot in memory stays, it is one of the mixer's own
controls, and every later start-up writes it back instead of running the boot sequence, whatever
became of the state file.
-/

namespace UseCase

namespace Rig

variable {σ α : Type} {b : Backend σ} {c : Card}

/-! ## Start-up -/

/-- A question that the surface answers is answered to the rig, which otherwise stays. -/
lemma asked_ok {ε : Type} {x : EStateM ControlFault σ α} {a : Activation} {s s' : σ} {answer : α}
    (asked : x s = .ok answer s') (g : ControlFault → ε) :
    onSurface (x.adaptExcept g) (⟨a, s⟩ : Rig σ) = .ok answer ⟨a, s'⟩ := by
  rw [onSurface, onPart, Outcome.adaptExcept_apply, asked]

/-- A question at which the surface fails is a failure of the rig, which otherwise stays. -/
lemma asked_error {ε : Type} {x : EStateM ControlFault σ α} {a : Activation} {s s' : σ}
    {cause : ControlFault} (failed : x s = .error cause s') (g : ControlFault → ε) :
    onSurface (x.adaptExcept g) (⟨a, s⟩ : Rig σ) = .error (g cause) ⟨a, s'⟩ := by
  rw [onSurface, onPart, Outcome.adaptExcept_apply, failed]

variable {a : Activation} {s s' s'' : σ} {rig : Rig σ}

/-- With unchanged controls the boot restores them and does no more. -/
lemma runBoot_unchanged (unchanged : b.changed s = .ok false s')
    (restored : b.restore s' = .ok () s'') : runBoot b c ⟨a, s⟩ = .ok () ⟨a, s''⟩ := by
  rw [runBoot, Outcome.bind_ok (asked_ok unchanged _), if_neg Bool.false_ne_true,
    asked_ok restored]

/-- With changed controls a start-up runs the boot sequence; if that fails, this is the end. -/
lemma runBoot_failed (changed : b.changed s = .ok true s') {f : Fault}
    (failed : run b c "boot" none c.boot ⟨a, s'⟩ = .error f rig) :
    runBoot b c ⟨a, s⟩ = .error f rig := by
  rw [runBoot, Outcome.bind_ok (asked_ok changed _), if_pos rfl, Outcome.bind_error failed]

/-- A start-up that succeeds has taken a snapshot, or has written one back. -/
lemma runBoot_ok (done : runBoot b c ⟨a, s⟩ = .ok () rig) :
    (∃ before, b.store before = .ok () rig.surface) ∨
      ∃ before, b.changed s = .ok false before ∧ b.restore before = .ok () rig.surface := by
  cases asked : b.changed s with
  | error cause mid =>
    rw [runBoot, Outcome.bind_error (asked_error asked _)] at done
    cases done
  | ok changed mid =>
    rw [runBoot, Outcome.bind_ok (asked_ok asked _)] at done
    cases changed with
    | false =>
      rw [if_neg Bool.false_ne_true] at done
      refine .inr ⟨mid, rfl, ?_⟩
      cases restored : b.restore mid with
      | ok _ last =>
        rw [asked_ok restored] at done
        cases done
        rfl
      | error cause last =>
        rw [asked_error restored] at done
        cases done
    | true =>
      rw [if_pos rfl, Outcome.bind_apply] at done
      split at done
      · rename_i ran
        cases stored : b.store ‹Rig σ›.surface with
        | ok _ last =>
          rw [asked_ok stored] at done
          cases done
          exact .inl ⟨_, stored⟩
        | error cause last =>
          rw [asked_error stored] at done
          cases done
      · cases done

end Rig

/-- A watched surface tells in the same way whether its controls have changed, and nothing is
recorded. -/
lemma Backend.watch_changed {σ : Type} {b : Backend σ} {s s' : σ} {answer : Bool}
    (asked : b.changed s = .ok answer s') (told : List Exchange) :
    b.watch.changed ⟨s, told⟩ = .ok answer ⟨s', told⟩ := by
  simp only [watch, UseCase.onPart, asked]

/-- A watched surface restores its controls in the same way, and nothing is recorded. -/
lemma Backend.watch_restore {σ : Type} {b : Backend σ} {s s' : σ}
    (restored : b.restore s = .ok () s') (told : List Exchange) :
    b.watch.restore ⟨s, told⟩ = .ok () ⟨s', told⟩ := by
  simp only [watch, UseCase.onPart, restored]

namespace Desk

variable {d d' : Desk} {s : Snapshot} {c : Card} {a : Activation}

/-- The desks to which machines lead, while the host may change by itself. Each operation may meet
another card and another activation, since a machine that loads its card anew keeps its desk. -/
inductive Used (d : Desk) : Desk → Prop
  | start : Used d d
  | operation {d' : Desk} (c : Card) (a : Activation) (op : Rig.Operation) : Used d d' →
    Used d (after (Rig.perform backend c op ⟨a, d'⟩)).surface
  | outside {d' : Desk} (host : Host) : Used d d' → Used d { d' with host := host }

/-- A desk remembers a snapshot of the controls that its mixer has. -/
structure Booted (d : Desk) (s : Snapshot) : Prop where
  cached : d.mixer.cached = some s
  same : s.isOf d.mixer.identifiers.names

/-- The desk after the values of a snapshot were written back. -/
def withSnapshot (d : Desk) (s : Snapshot) : Desk :=
  { d with mixer := d.mixer.writeBack s.values }

/-- A booted desk finds its controls unchanged. -/
lemma Booted.changed (booted : d.Booted s) : changed d = .ok false d := by
  rw [changed_of_stored (stored_of_cached booted.cached), Option.any_some, booted.same]
  rfl

/-- A booted desk restores the snapshot with which it was booted. -/
lemma Booted.restore (booted : d.Booted s) : restore d = .ok () (d.withSnapshot s) :=
  restore_of_stored (stored_of_cached booted.cached)

/-- A booted desk stays booted with the same snapshot until it is asked to store another. -/
lemma Booted.leads (booted : d.Booted s) (leads : d.Leads (· ≠ .store) d') : d'.Booted s where
  cached := leads.cached (by simp) booted.cached
  same := by
    rw [leads.keeps.identifiers]
    exact booted.same

/-- A start-up of a desk that remembers a snapshot writes it back and is told nothing. -/
lemma Booted.runBoot (booted : d.Booted s) (c : Card) (a : Activation) :
    Rig.runBoot backend c ⟨a, d⟩ = .ok () ⟨a, d.withSnapshot s⟩ ∧
      ∀ told, Rig.runBoot backend.watch c ⟨a, ⟨d, told⟩⟩ =
        .ok () ⟨a, ⟨d.withSnapshot s, told⟩⟩ := by
  refine ⟨Rig.runBoot_unchanged booted.changed booted.restore, fun told => ?_⟩
  have changes : backend.changed d = .ok false d := booted.changed
  have restores : backend.restore d = .ok () (d.withSnapshot s) := booted.restore
  exact Rig.runBoot_unchanged (Backend.watch_changed changes told)
    (Backend.watch_restore restores told)

/-- Steps do not take a snapshot. -/
lemma leads_of_sent (sent : Rig.Sent backend d d') : d.Leads (· ≠ .store) d' := by
  induction sent with
  | refl => exact .start
  | tail _ step ih =>
    obtain ⟨step, rfl⟩ := step
    exact .request (.apply step) (by simp) ih

/-- What a rig sends to a desk leaves the snapshot in memory. -/
lemma cached_of_sent (sent : Rig.Sent backend d d') : d'.mixer.cached = d.mixer.cached := by
  induction sent with
  | refl => rfl
  | tail _ step ih =>
    obtain ⟨step, rfl⟩ := step
    rw [← ih]
    rcases mixer_apply step _ with same | ⟨v, -, same⟩
    · rw [same]
    · rw [same]
      rfl

/-- Machines take no other snapshot from a desk that remembers one. -/
lemma Booted.used (booted : d.Booted s) (used : d.Used d') : d.Leads (· ≠ .store) d' := by
  induction used with
  | start => exact .start
  | outside host _ ih => exact .outside host ih
  | operation c a op _ ih =>
    rename_i mid _
    by_cases start : op = .command .boot
    · -- Another start-up comes to writing the snapshot back.
      subst start
      have again := (booted.leads ih).runBoot c a
      have restored : mid.withSnapshot s = after (serve .restore mid) := by
        rw [serve, (booted.leads ih).restore, after_ok]
      rw [Rig.perform, again.1, after_ok, restored]
      exact .request .restore (by simp) ih
    · exact ih.trans (leads_of_sent (Rig.perform_stepwise start ⟨a, mid⟩))

/-- Controls count as unchanged only if the desk remembers a snapshot of them. -/
lemma booted_of_changed (unchanged : Desk.changed d = .ok false d') : ∃ s, d'.Booted s := by
  rcases stored_cases d with ⟨found, read⟩ | ⟨cause, failed⟩
  · rw [changed_of_stored read] at unchanged
    obtain ⟨answer, rfl⟩ := EStateM.Result.ok.inj unchanged
    rw [Bool.not_eq_false', Option.any_eq_true] at answer
    obtain ⟨s, rfl, same⟩ := answer
    exact ⟨s, rfl, same⟩
  · rw [changed, Outcome.bind_error failed] at unchanged
    cases unchanged

/-- A desk that has stored a snapshot is booted with it. -/
lemma booted_of_store (taken : store d = .ok () d') : ∃ s, d'.Booted s := by
  obtain ⟨same, -⟩ := store_ok taken
  refine ⟨d.mixer.snapshot, by rw [same], ?_⟩
  rw [same]
  exact beq_self_eq_true d.mixer.identifiers.names

/-- Writing back the snapshot leaves a desk booted with it. -/
lemma Booted.withSnapshot (booted : d.Booted s) : (d.withSnapshot s).Booted s := by
  have leads : d.Leads (· ≠ .store) (after (serve .restore d)) :=
    .request .restore (by simp) .start
  rw [serve, booted.restore] at leads
  exact booted.leads leads

/-- After a start-up that succeeded the desk remembers a snapshot of its controls. -/
lemma booted_of_runBoot {rig : Rig Desk} (done : Rig.runBoot backend c ⟨a, d⟩ = .ok () rig) :
    ∃ s, rig.surface.Booted s := by
  rcases Rig.runBoot_ok done with ⟨before, taken⟩ | ⟨before, unchanged, restored⟩
  · exact booted_of_store taken
  · obtain ⟨s, booted⟩ := booted_of_changed unchanged
    refine ⟨s, ?_⟩
    have same : rig.surface = before.withSnapshot s :=
      (EStateM.Result.ok.inj (restored.symm.trans booted.restore)).2
    rw [same]
    exact booted.withSnapshot

/-- Whatever a desk remembers and whatever its state file holds: after the first start-up that
succeeds, every later one succeeds too. It tells the control surface nothing, gives the accepted
controls of the snapshot in memory their values back, and changes nothing else. This snapshot stays
the one of the first start-up, whatever machines do and whatever becomes of the files. A start-up
whose boot sequence fails ends there and takes no snapshot. -/
theorem boots_once (c : Card) (a : Activation) (d : Desk) :
    (∀ rig later, Rig.runBoot backend c ⟨a, d⟩ = .ok () rig → rig.surface.Used later →
      ∃ s, rig.surface.mixer.cached = some s ∧ later.mixer.cached = some s ∧
        ∀ (c' : Card) (a' : Activation) (told : List Exchange), ∃ held,
          let restored := { later with mixer := { later.mixer with values := held } }
          Rig.runBoot backend c' ⟨a', later⟩ = .ok () ⟨a', restored⟩ ∧
          Rig.runBoot backend.watch c' ⟨a', ⟨later, told⟩⟩ = .ok () ⟨a', ⟨restored, told⟩⟩ ∧
          ∀ device control, restored.mixer.value? device control =
            if later.mixer.accepts control then
              (Mixer.last? s.values device control).or (later.mixer.value? device control)
            else later.mixer.value? device control) ∧
    ∀ asked f rig, changed d = .ok true asked →
      Rig.run backend c "boot" none c.boot ⟨a, asked⟩ = .error f rig →
      Rig.runBoot backend c ⟨a, d⟩ = .error f rig ∧
        rig.surface.mixer.cached = asked.mixer.cached := by
  refine ⟨fun rig later done used => ?_, fun asked f rig changes failed => ⟨?_, ?_⟩⟩
  -- `Booted` holds from the first success on, and a desk that is used stays so.
  · obtain ⟨s, booted⟩ := booted_of_runBoot done
    have still := booted.leads (booted.used used)
    refine ⟨s, booted.cached, still.cached, fun c' a' told => ?_⟩
    obtain ⟨held, same⟩ := later.mixer.exists_writeBack s.values
    have restored : later.withSnapshot s =
        { later with mixer := { later.mixer with values := held } } := by
      rw [withSnapshot, same]
    obtain ⟨succeeds, silent⟩ := still.runBoot c' a'
    rw [restored] at succeeds silent
    refine ⟨held, succeeds, silent told, fun device control => ?_⟩
    rw [← same]
    exact later.mixer.value?_writeBack s.values device control
  · exact Rig.runBoot_failed changes failed
  · have sent := Rig.Stepwise.run (b := backend) (c := c) "boot" none c.boot ⟨a, asked⟩
    rw [failed] at sent
    exact cached_of_sent sent

/-- A desk that accepts some controls and has no state file. -/
def accepting (identifiers : List String) : Desk :=
  opened identifiers false false none (.ofFiles (.empty []))

/-- The sample card with a fixed boot sequence that writes the control of its boot sequence. -/
def overwriting : Card :=
  { Sample.card with fixedBoot := .write "boot" "0" }

/-- What the boot sequence wrote is written back when the system starts for the second time. A desk
that refuses what the boot sequence writes has no snapshot. -/
theorem boots_once_of_sample :
    ∃ rig later restored refused,
      Rig.runBoot backend overwriting ⟨.fresh, accepting ["boot"]⟩ = .ok () rig ∧
      rig.surface.Used later ∧
      later.mixer.value? "default" "boot" = some "0" ∧
      Rig.runBoot backend.watch overwriting ⟨.fresh, ⟨later, []⟩⟩ =
        .ok () ⟨.fresh, ⟨restored, []⟩⟩ ∧
      restored.mixer.value? "default" "boot" = some "1" ∧
      Rig.runBoot backend overwriting ⟨.fresh, accepting ["volume"]⟩ =
        .error (.sequence "boot" 0 (.rejected "boot" "no such control")) refused ∧
      refused.surface.mixer.cached = none := by
  let start : Rig Desk := ⟨.fresh, accepting ["boot"]⟩
  let rig := after (Rig.runBoot backend overwriting start)
  let later := (after (Rig.perform backend overwriting (.command .fixedBoot) rig)).surface
  have done : Rig.runBoot backend overwriting start = .ok () rig := rfl
  have used : rig.surface.Used later := .operation overwriting .fresh (.command .fixedBoot) .start
  obtain ⟨s, cached, -, again⟩ := (boots_once overwriting .fresh _).1 rig later done used
  obtain ⟨held, -, silent, values⟩ := again overwriting .fresh []
  have stored : rig.surface.mixer.cached = some ⟨["boot"], [⟨"default", "boot", "1"⟩]⟩ := rfl
  cases stored.symm.trans cached
  obtain ⟨failed, empty⟩ := (boots_once overwriting .fresh (accepting ["volume"])).2 _ _ _ rfl rfl
  exact ⟨rig, later, _, _, done, used, rfl, silent, values "default" "boot", failed, empty⟩

end Desk

end UseCase
