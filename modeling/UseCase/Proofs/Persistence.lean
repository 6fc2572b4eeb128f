import UseCase.Proofs.Desk
import UseCase.Proofs.Storage

/-!
# Snapshots across restarts

A mixer that is made anew finds in its state file what the one before it stored there. It takes its
controls for unchanged exactly if it was given the same identifiers, in whatever order and however
often, and then writing the snapshot back gives it the values of the other one. A device in the
place of the state file takes the snapshot as well, but need not give it back.
-/

namespace UseCase.Desk

/-- A snapshot that was saved to a file is loaded again, whatever its texts are. So a mixer that is
made anew on the same files takes its controls for unchanged exactly if they have the identifiers of
the one that stored a snapshot, and then gets the values that this one held. -/
theorem store_survives :
    (∀ (s : Snapshot) (path : String) (fs fs' : Files), s.save path fs = .ok () fs' →
      fs'.isFile path = true → Snapshot.load fs' path = .ok (some s)) ∧
    ∀ (identifiers identifiers' : List String) (pauses executes pauses' executes' : Bool)
      (path : String) (host host' : Host) (d stored : Desk),
      (opened identifiers pauses executes (some path) host).Leads (fun _ => True) d →
      store d = .ok () stored → stored.host.files.isFile path = true →
      host'.files = stored.host.files →
      let anew := opened identifiers' pauses' executes' (some path) host'
      ∃ answer asked, changed anew = .ok answer asked ∧
        (answer = false ↔ ∀ i, i ∈ identifiers' ↔ i ∈ identifiers) ∧
        ((∀ i, i ∈ identifiers' ↔ i ∈ identifiers) → ∀ before, before = anew ∨ before = asked →
          ∃ restored, restore before = .ok () restored ∧ ∀ device control,
            restored.mixer.value? device control = d.mixer.value? device control) := by
  refine ⟨fun s path fs fs' saved file => Snapshot.load_save saved file, ?_⟩
  intro identifiers identifiers' pauses executes pauses' executes' path host host' d taken leads
    storing file files anew
  obtain ⟨-, saved⟩ := store_ok storing
  have loaded : Snapshot.load host'.files path = .ok (some d.mixer.snapshot) := by
    rw [files]
    exact Snapshot.load_save (saved path leads.keeps.stateFile) file
  let asked : Desk := { anew with mixer := { anew.mixer with cached := some d.mixer.snapshot } }
  have reads : stored anew = .ok (some d.mixer.snapshot) asked := stored_of_load rfl rfl loaded
  refine ⟨_, asked, changed_of_stored reads, ?_, fun same before which => ?_⟩
  · have names : d.mixer.snapshot.identifiers =
        (Mixer.create identifiers pauses executes (some path)).identifiers.names := by
      change d.mixer.identifiers.names = _
      rw [leads.keeps.identifiers]
      rfl
    change (!(d.mixer.snapshot.identifiers ==
      (Mixer.create identifiers' pauses' executes' (some path)).identifiers.names)) = false ↔ _
    rw [Bool.not_eq_false', beq_iff_eq, names, Mixer.names_create_iff]
    exact forall_congr' fun i => Iff.comm
  · -- The snapshot is read from the file, or it is in memory since the controls were asked about.
    have reads' : stored before = .ok (some d.mixer.snapshot) asked := by
      rcases which with rfl | rfl
      · exact reads
      · exact stored_of_cached rfl
    refine ⟨_, restore_of_stored reads', fun device control => ?_⟩
    rw [Mixer.value?_writeBack]
    change (if asked.mixer.accepts control then
      (Mixer.last? d.mixer.allValues device control).or none else none) = _
    rw [Mixer.last?_allValues, Option.or_none]
    split_ifs with accepted
    · rfl
    · cases value : d.mixer.value? device control with
      | none => rfl
      | some _ =>
        have held := leads.accepts value
        rw [leads.keeps.accepts] at held
        have accepts : anew.mixer.accepts control := (Mixer.accepts_create_congr same).mpr held
        exact absurd accepts accepted

/-- A desk in a directory of its own that keeps its snapshots in a state file. -/
def withState (identifiers : List String) (files : Files) : Desk :=
  opened identifiers false false (some "state") (.ofFiles files)

/-- Texts with quotes, line breaks and other characters come back, and so does an empty one. The
order of the identifiers does not matter, but a mixer with one more control has changed controls. -/
theorem survives_with_odd_texts :
    ∃ d stored same more restored,
      (withState ["b", "a"] (.empty ["home"])).Leads (fun _ => True) d ∧
      store d = .ok () stored ∧
      changed (withState ["a", "b", "a"] stored.host.files) = .ok false same ∧
      restore same = .ok () restored ∧
      restored.mixer.value? "hw:\"0\"" "a" = some "'''\n\\\x7fß" ∧
      restored.mixer.value? "" "b" = some "" ∧
      changed (withState ["a", "b", "c"] stored.host.files) = .ok true more := by
  have same : ∀ i, i ∈ ["a", "b", "a"] ↔ i ∈ ["b", "a"] := by
    intro i
    simp only [List.mem_cons, List.not_mem_nil, or_false]
    tauto
  have other : ¬ ∀ i, i ∈ ["a", "b", "c"] ↔ i ∈ ["b", "a"] := fun all =>
    absurd ((all "c").mp (by decide)) (by decide)
  let first : Request := .apply (.set (some "hw:\"0\"") "a" "'''\n\\\x7fß")
  let second : Request := .apply (.set (some "") "b" "")
  let d := after (serve second (after (serve first (withState ["b", "a"] (.empty ["home"])))))
  let kept := after (store d)
  have leads : (withState ["b", "a"] (.empty ["home"])).Leads (fun _ => True) d :=
    .request second trivial (.request first trivial .start)
  have storing : store d = .ok () kept := eq_ok_of_answer rfl
  have file : kept.host.files.isFile "state" = true := by decide +kernel
  have anew := fun identifiers =>
    store_survives.2 ["b", "a"] identifiers false false false false "state"
      (.ofFiles (.empty ["home"])) (.ofFiles kept.host.files) d kept leads storing file rfl
  obtain ⟨answer, asked, read, unchanged, back⟩ := anew ["a", "b", "a"]
  obtain ⟨answer', asked', read', unchanged', -⟩ := anew ["a", "b", "c"]
  obtain ⟨restored, done, values⟩ := back same asked (.inr rfl)
  rw [unchanged.mpr same] at read
  have changes : answer' = true := by
    rw [← Bool.not_eq_false, unchanged']
    exact other
  rw [changes] at read'
  exact ⟨d, kept, asked, asked', restored, leads, storing, read, done, values "hw:\"0\"" "a",
    values "" "b", read'⟩

/-- Files with the empty device. -/
def withNull : Files where
  entries := [("dev", .directory [("null", .device .null 0o666)] FileTree.openMode)]
  working := []

/-- What the empty device takes is gone: instead of the snapshot that was saved, an empty one is
loaded, and a mixer that is made anew for the same controls has changed controls. -/
theorem snapshot_lost_in_device :
    (∃ fs, (⟨["a"], []⟩ : Snapshot).save "/dev/null" withNull = .ok () fs ∧
      Snapshot.load fs "/dev/null" = .ok (some ⟨[], []⟩)) ∧
    ∃ stored anew,
      store (opened ["a"] false false (some "/dev/null") (.ofFiles withNull)) = .ok () stored ∧
      changed (opened ["a"] false false (some "/dev/null") stored.host) = .ok true anew := by
  let saved := (⟨["a"], []⟩ : Snapshot).save "/dev/null" withNull
  let kept := after (store (opened ["a"] false false (some "/dev/null") (.ofFiles withNull)))
  have saving : saved = .ok () (after saved) := eq_ok_of_answer rfl
  have loading : Snapshot.load (after saved) "/dev/null" = .ok (some ⟨[], []⟩) := by
    decide +kernel
  have storing : store (opened ["a"] false false (some "/dev/null") (.ofFiles withNull)) =
      .ok () kept := eq_ok_of_answer rfl
  exact ⟨⟨_, saving, loading⟩, kept, _, storing, eq_ok_of_answer rfl⟩

end UseCase.Desk
