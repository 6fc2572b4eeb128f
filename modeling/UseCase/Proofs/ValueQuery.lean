import Mathlib.Tactic.Common
import UseCase.Proofs.Outcome
import UseCase.Proofs.Splitting
import UseCase.Query

/-!
# Reading value queries

The grammar of value identifiers, in two ways: `Grammatical` says by its segments which identifier
can be read at all, and `Scope.Spelled` which segments stand for which scope. A scope without an
anchor for the active verb, and one with an anchor of any kind for it, are spelled in two ways;
`ValueQuery.text` chooses one.

The main statement `parse_grammar` is that exactly the grammatical identifiers are read, that a
query that was read is well-formed and was spelled by the identifier, and that every well-formed
query is read from its text.
-/

namespace UseCase

/-- A text that can stand between slashes as the name of something. -/
def IsSegment (name : String) : Prop :=
  name ≠ "" ∧ '/' ∉ name.toList

/-- Whether a text can be one segment of a query can be decided. -/
instance (name : String) : Decidable (IsSegment name) :=
  inferInstanceAs (Decidable (_ ∧ _))

/-- The segments of the identifiers that can be read. -/
def Grammatical : List (List Char) → Prop
  | [name] | [name, _] | [name, _, _] => name ≠ []
  | [name, gap, device, _] => name ≠ [] ∧ gap = [] ∧ device ≠ []
  | _ => False

/-- A segment that is not empty names something. -/
lemma isSegment_ofList {piece : List Char} (some : piece ≠ []) (whole : '/' ∉ piece) :
    IsSegment (String.ofList piece) := by
  refine ⟨fun empty => some ?_, ?_⟩
  · rw [← String.toList_ofList (l := piece), empty]
    rfl
  · rwa [String.toList_ofList]

/-- The name of something is not the empty segment. -/
lemma IsSegment.toList_ne_nil {name : String} (segment : IsSegment name) : name.toList ≠ [] :=
  fun empty => segment.1 (String.toList_eq_nil_iff.mp empty)

namespace Scope

/-- The segments behind a name that stand for a scope. -/
inductive Spelled : Scope → List String → Prop
  | bare : Spelled ⟨none, .unspecified⟩ []
  | active : Spelled ⟨none, .current⟩ ["", ""]
  | activeShort : Spelled ⟨none, .current⟩ [""]
  | verb {v : String} : IsSegment v → Spelled ⟨none, .named v⟩ ["", v]
  | anchor {a : String} : IsSegment a → Spelled ⟨some ⟨.any, a⟩, .current⟩ [a]
  | anchorLong {a : String} : IsSegment a → Spelled ⟨some ⟨.any, a⟩, .current⟩ [a, ""]
  | anchorVerb {a v : String} : IsSegment a → IsSegment v →
    Spelled ⟨some ⟨.any, a⟩, .named v⟩ [a, v]
  | device {d : String} : IsSegment d → Spelled ⟨some ⟨.device, d⟩, .current⟩ ["", d, ""]
  | deviceVerb {d v : String} : IsSegment d → IsSegment v →
    Spelled ⟨some ⟨.device, d⟩, .named v⟩ ["", d, v]

/-- A scope that can be written: its names are segments, and beside an anchor there is a part for
the verb. -/
structure WellFormed (s : Scope) : Prop where
  anchor : ∀ a, s.anchor = some a → IsSegment a.name ∧ s.verb ≠ .unspecified
  verb : ∀ v, s.verb = .named v → IsSegment v

/-- The segments in which a scope is written. -/
def segments : Scope → List String
  | ⟨none, .unspecified⟩ => []
  | ⟨none, .current⟩ => ["", ""]
  | ⟨none, .named v⟩ => ["", v]
  | ⟨some ⟨.any, a⟩, .named v⟩ => [a, v]
  | ⟨some ⟨.any, a⟩, _⟩ => [a]
  | ⟨some ⟨.device, d⟩, .named v⟩ => ["", d, v]
  | ⟨some ⟨.device, d⟩, _⟩ => ["", d, ""]

variable {s : Scope} {after : List String} {name : List Char} {rest : List (List Char)}

/-! ## Spelled scopes -/

/-- What was spelled can be written. -/
lemma Spelled.wellFormed (spelled : s.Spelled after) : s.WellFormed := by
  cases spelled with
  | bare | active | activeShort => exact ⟨nofun, nofun⟩
  | verb hv =>
    refine ⟨nofun, fun v named => ?_⟩
    cases named
    exact hv
  | anchor ha | anchorLong ha | device ha =>
    refine ⟨fun a found => ?_, nofun⟩
    cases found
    exact ⟨ha, nofun⟩
  | anchorVerb ha hv | deviceVerb ha hv =>
    refine ⟨fun a found => ?_, fun v named => ?_⟩
    · cases found
      exact ⟨ha, nofun⟩
    · cases named
      exact hv

/-- What can be written is spelled by the segments in which it is written. -/
lemma WellFormed.spelled (good : s.WellFormed) : s.Spelled s.segments := by
  obtain ⟨anchor, verb⟩ := s
  cases anchor with
  | none =>
    cases verb with
    | unspecified => exact .bare
    | current => exact .active
    | named v => exact .verb (good.verb v rfl)
  | some a =>
    obtain ⟨ha, specified⟩ := good.anchor a rfl
    obtain ⟨kind, name⟩ := a
    cases verb with
    | unspecified => exact absurd rfl specified
    | current =>
      cases kind with
      | any => exact .anchor ha
      | device => exact .device ha
    | named v =>
      cases kind with
      | any => exact .anchorVerb ha (good.verb v rfl)
      | device => exact .deviceVerb ha (good.verb v rfl)

/-- No segment that spells a scope contains a slash. -/
lemma Spelled.whole (spelled : s.Spelled after) : ∀ piece ∈ after, '/' ∉ piece.toList := by
  have gap : '/' ∉ "".toList := List.not_mem_nil
  cases spelled with
  | bare => exact List.forall_mem_nil _
  | active => exact List.forall_mem_cons.mpr ⟨gap, List.forall_mem_singleton.mpr gap⟩
  | activeShort => exact List.forall_mem_singleton.mpr gap
  | verb hv => exact List.forall_mem_cons.mpr ⟨gap, List.forall_mem_singleton.mpr hv.2⟩
  | anchor ha => exact List.forall_mem_singleton.mpr ha.2
  | anchorLong ha => exact List.forall_mem_cons.mpr ⟨ha.2, List.forall_mem_singleton.mpr gap⟩
  | anchorVerb ha hv => exact List.forall_mem_cons.mpr ⟨ha.2, List.forall_mem_singleton.mpr hv.2⟩
  | device hd => simp [hd.2]
  | deviceVerb hd hv => simp [hd.2, hv.2]

/-- A segment is read as an anchor of any kind. -/
lemma anchorOf_toList {a : String} (segment : IsSegment a) :
    anchorOf a.toList = some ⟨.any, a⟩ := by
  rw [anchorOf, if_neg segment.toList_ne_nil, String.ofList_toList]

/-- A segment is read as the name of a verb. -/
lemma verbOf_toList {v : String} (segment : IsSegment v) : verbOf v.toList = .named v := by
  rw [verbOf, if_neg segment.toList_ne_nil, String.ofList_toList]

/-- A scope is read from the segments that spell it. -/
lemma Spelled.read (spelled : s.Spelled after) :
    ofSegments? (after.map String.toList) = some s := by
  cases spelled with
  | bare | active | activeShort => rfl
  | verb hv =>
    change some (⟨none, verbOf _⟩ : Scope) = _
    rw [verbOf_toList hv]
  | anchor ha | anchorLong ha =>
    change some (⟨anchorOf _, .current⟩ : Scope) = _
    rw [anchorOf_toList ha]
  | anchorVerb ha hv =>
    change some (⟨anchorOf _, verbOf _⟩ : Scope) = _
    rw [anchorOf_toList ha, verbOf_toList hv]
  | @device d hd =>
    change ofSegments? [[], d.toList, []] = _
    rw [ofSegments?, if_neg hd.toList_ne_nil, String.ofList_toList]
    rfl
  | @deviceVerb d v hd hv =>
    change ofSegments? [[], d.toList, v.toList] = _
    rw [ofSegments?, if_neg hd.toList_ne_nil, String.ofList_toList, verbOf_toList hv]

/-- What was read as a scope is spelled by the segments. -/
lemma spelled_of_ofSegments? (whole : ∀ piece ∈ rest, '/' ∉ piece)
    (read : ofSegments? rest = some s) : s.Spelled (rest.map String.ofList) := by
  unfold ofSegments? at read
  split at read
  · cases read
    exact .bare
  · rename_i anchor
    cases read
    have wa := whole anchor (by simp)
    rw [anchorOf]
    split_ifs with none
    · subst none
      exact .activeShort
    · exact .anchor (isSegment_ofList none wa)
  · rename_i anchor verb
    cases read
    have wa := whole anchor (by simp)
    have wv := whole verb (by simp)
    rw [anchorOf, verbOf]
    split_ifs with none current current
    · subst none current
      exact .active
    · subst none
      exact .verb (isSegment_ofList current wv)
    · subst current
      exact .anchorLong (isSegment_ofList none wa)
    · exact .anchorVerb (isSegment_ofList none wa) (isSegment_ofList current wv)
  · rename_i device verb
    have wd := whole device (by simp)
    have wv := whole verb (by simp)
    split_ifs at read with none
    cases read
    rw [verbOf]
    split_ifs with current
    · subst current
      exact .device (isSegment_ofList none wd)
    · exact .deviceVerb (isSegment_ofList none wd) (isSegment_ofList current wv)
  · cases read

/-- The segments of an identifier that can be read are a name and those of a scope. -/
lemma grammatical_cons :
    Grammatical (name :: rest) ↔ name ≠ [] ∧ ∃ s, ofSegments? rest = some s := by
  match rest with
  | [] | [_] | [_, _] => exact (and_iff_left ⟨_, rfl⟩).symm
  | [gap, device, verb] =>
    refine and_congr_right fun _ => ?_
    cases gap with
    | cons c others => exact iff_of_false (fun h => List.cons_ne_nil c others h.1) nofun
    | nil =>
      rw [ofSegments?]
      split_ifs with empty
      · exact iff_of_false (fun h => h.2 empty) nofun
      · exact iff_of_true ⟨rfl, empty⟩ ⟨_, rfl⟩
  | _ :: _ :: _ :: _ :: _ => exact iff_of_false not_false fun ⟨_, _, h⟩ => nomatch h

/-- Either the segments are grammatical and are read as a name with a scope, or the whole is
malformed. -/
lemma parse_cases (body : List Char) :
    (∃ name rest s, Text.segments '/' body = name :: rest ∧ name ≠ [] ∧
      ofSegments? rest = some s ∧ parse body = .ok (name, s)) ∨
    (¬ Grammatical (Text.segments '/' body) ∧ ∃ cause, parse body = .error (.invalid cause)) := by
  rw [parse]
  cases cut : Text.segments '/' body with
  | nil => exact .inr ⟨not_false, _, rfl⟩
  | cons name rest =>
    rw [grammatical_cons]
    cases read : ofSegments? rest with
    | none =>
      refine .inr ⟨?_, .segments (String.ofList body), ?_⟩
      · rintro ⟨-, s, found⟩
        cases found
      · simp only [read]
    | some s =>
      by_cases nameless : name = []
      · refine .inr ⟨fun good => good.1 nameless, .emptyName (String.ofList body), ?_⟩
        simp only [read, if_pos nameless]
      · refine .inl ⟨name, rest, s, rfl, nameless, read, ?_⟩
        simp only [read, if_neg nameless]

end Scope

namespace ValueQuery

variable {identifier : String} {body : List Char} {exact : Bool} {q : ValueQuery}

/-- An identifier without the equals sign in front, if it has one there. -/
def unmarked (identifier : String) : List Char :=
  match identifier.toList with
  | '=' :: rest => rest
  | chars => chars

/-- The scope of a query. -/
def scope (q : ValueQuery) : Scope :=
  ⟨q.anchor, q.verb⟩

/-- A query that can be written. The name of an exact one may begin with an equals sign, too. -/
structure WellFormed (q : ValueQuery) : Prop where
  name : IsSegment q.name
  mark : q.exact = false → q.name.toList.head? ≠ some '='
  scope : q.scope.WellFormed

/-- The identifier of a query whose scope is spelled by some segments. -/
def spell (q : ValueQuery) (after : List String) : String :=
  (if q.exact then "=" else "") ++ "/".intercalate (q.name :: after)

/-- The identifier in which a query is written. -/
def text (q : ValueQuery) : String :=
  q.spell q.scope.segments

/-! ## Queries and identifiers -/

/-- What follows the mark is read as a query if it consists of its name and of segments that spell
its scope. -/
lemma parseScoped_eq_ok :
    parseScoped exact body = .ok q ↔ q.exact = exact ∧ IsSegment q.name ∧
      ∃ after, q.scope.Spelled after ∧ body = ("/".intercalate (q.name :: after)).toList := by
  constructor
  · intro read
    rw [parseScoped] at read
    rcases Scope.parse_cases body with ⟨name, rest, s, cut, named, understood, parsed⟩ |
      ⟨-, cause, failed⟩
    · rw [parsed] at read
      cases read
      have whole : ∀ piece ∈ name :: rest, '/' ∉ piece := fun piece member =>
        Text.not_mem_of_mem_segments (cut ▸ member)
      have spelled := Scope.spelled_of_ofSegments?
        (fun piece member => whole piece (List.mem_cons_of_mem name member)) understood
      refine ⟨rfl, isSegment_ofList named (whole name List.mem_cons_self), _, spelled, ?_⟩
      rw [String.toList_intercalate, ← Text.intercalate_segments '/' body, cut]
      simp
    · rw [failed] at read
      cases read
  · rintro ⟨rfl, segment, after, spelled, rfl⟩
    have whole : ∀ piece ∈ (q.name :: after).map String.toList, '/' ∉ piece := by
      rw [List.forall_mem_map]
      exact List.forall_mem_cons.mpr ⟨segment.2, spelled.whole⟩
    have cut : Text.segments '/' ("/".intercalate (q.name :: after)).toList =
        q.name.toList :: after.map String.toList := by
      rw [String.toList_intercalate]
      exact Text.segments_intercalate whole (List.cons_ne_nil _ _)
    rw [parseScoped, Scope.parse, cut]
    simp only [spelled.read, if_neg segment.toList_ne_nil]
    change Except.ok (ValueQuery.mk (String.ofList q.name.toList) q.anchor q.verb q.exact) = _
    rw [String.ofList_toList]

/-- The name of a query begins the identifier behind the mark. -/
lemma head?_intercalate {name : String} (segment : IsSegment name) (after : List String) :
    ("/".intercalate (name :: after)).toList.head? = name.toList.head? := by
  obtain ⟨c, others, chars⟩ := List.exists_cons_of_ne_nil segment.toList_ne_nil
  rw [String.toList_intercalate, List.map_cons, chars]
  cases after with
  | nil => rw [List.map_nil, List.intercalate_singleton]
  | cons first rest => rw [List.map_cons, List.intercalate_cons_cons]; rfl

/-- A mark in front is taken off before the rest is read. -/
lemma parse_of_marked (chars : identifier.toList = '=' :: body) :
    unmarked identifier = body ∧ parse identifier = parseScoped true body := by
  rw [unmarked, parse, chars]
  exact ⟨rfl, rfl⟩

/-- Without a mark all of the identifier is read. -/
lemma parse_of_unmarked (mark : identifier.toList.head? ≠ some '=') :
    unmarked identifier = identifier.toList ∧
      parse identifier = parseScoped false identifier.toList := by
  rw [unmarked, parse]
  constructor
  · split
    · rename_i chars
      rw [chars] at mark
      exact absurd rfl mark
    · rfl
  · split
    · rename_i chars
      rw [chars] at mark
      exact absurd rfl mark
    · rfl

/-- What follows the mark is read, if there is one, or else the whole identifier. -/
lemma parse_eq_parseScoped (identifier : String) :
    ∃ exact, parse identifier = parseScoped exact (unmarked identifier) := by
  by_cases mark : identifier.toList.head? = some '='
  · obtain ⟨body, chars⟩ := List.head?_eq_some_iff.mp mark
    obtain ⟨same, read⟩ := parse_of_marked chars
    exact ⟨true, same ▸ read⟩
  · obtain ⟨same, read⟩ := parse_of_unmarked mark
    exact ⟨false, same ▸ read⟩

/-- Exactly the well-formed queries are read, each from the identifiers that spell it. -/
theorem parse_eq_ok_iff : parse identifier = .ok q ↔
    q.WellFormed ∧ ∃ after, q.scope.Spelled after ∧ identifier = q.spell after := by
  constructor
  · intro read
    by_cases mark : identifier.toList.head? = some '='
    · obtain ⟨body, chars⟩ := List.head?_eq_some_iff.mp mark
      rw [(parse_of_marked chars).2, parseScoped_eq_ok] at read
      obtain ⟨exact_, segment, after, spelled, rfl⟩ := read
      refine ⟨⟨segment, by simp [exact_], spelled.wellFormed⟩, after, spelled, ?_⟩
      rw [← String.toList_inj, chars, spell, exact_, if_pos rfl, String.toList_append]
      rfl
    · rw [(parse_of_unmarked mark).2, parseScoped_eq_ok] at read
      obtain ⟨exact_, segment, after, spelled, chars⟩ := read
      -- What was read begins with the name, so this has no mark in front either.
      rw [chars, head?_intercalate segment] at mark
      refine ⟨⟨segment, fun _ => mark, spelled.wellFormed⟩, after, spelled, ?_⟩
      rw [← String.toList_inj, chars, spell, exact_, String.toList_append]
      rfl
  · rintro ⟨good, after, spelled, rfl⟩
    cases marked : q.exact with
    | true =>
      have chars : (q.spell after).toList = '=' :: ("/".intercalate (q.name :: after)).toList := by
        rw [spell, marked, if_pos rfl, String.toList_append]
        rfl
      rw [(parse_of_marked chars).2, parseScoped_eq_ok]
      exact ⟨marked, good.name, after, spelled, rfl⟩
    | false =>
      have chars : (q.spell after).toList = ("/".intercalate (q.name :: after)).toList := by
        rw [spell, marked, String.toList_append]
        rfl
      have unmarked : (q.spell after).toList.head? ≠ some '=' := by
        rw [chars, head?_intercalate good.name]
        exact good.mark marked
      rw [(parse_of_unmarked unmarked).2, chars, parseScoped_eq_ok]
      exact ⟨marked, good.name, after, spelled, rfl⟩

/-- What follows the mark is read if its segments are grammatical, and is malformed if not. -/
lemma parse_accepts (identifier : String) :
    (∃ q, parse identifier = .ok q ∧ Grammatical (Text.segments '/' (unmarked identifier))) ∨
    (¬ Grammatical (Text.segments '/' (unmarked identifier)) ∧
      ∃ cause, parse identifier = .error (.invalid cause)) := by
  obtain ⟨exact, read⟩ := parse_eq_parseScoped identifier
  rw [read, parseScoped]
  rcases Scope.parse_cases (unmarked identifier) with
    ⟨name, rest, s, cut, named, understood, parsed⟩ | ⟨bad, cause, failed⟩
  · rw [parsed, cut]
    exact .inl ⟨_, rfl, Scope.grammatical_cons.mpr ⟨named, s, understood⟩⟩
  · rw [failed]
    exact .inr ⟨bad, cause, rfl⟩

/-- Behind at most one mark, exactly the grammatical identifiers are read; all others are invalid.
What was read is a well-formed query and the identifier spells it. And every well-formed query is
read from its text. -/
theorem parse_grammar :
    (∀ identifier,
      ((∃ q, parse identifier = .ok q) ↔ Grammatical ((unmarked identifier).splitOn '/')) ∧
      (∀ f, parse identifier = .error f → ∃ cause, f = .invalid cause) ∧
      ∀ q, parse identifier = .ok q →
        q.WellFormed ∧ ∃ after, q.scope.Spelled after ∧ identifier = q.spell after) ∧
    ∀ q, q.WellFormed → parse q.text = .ok q := by
  refine ⟨fun identifier => ⟨?_, ?_, fun q read => parse_eq_ok_iff.mp read⟩, fun q good => ?_⟩
  · rw [← Text.segments_eq_splitOn]
    rcases parse_accepts identifier with ⟨q, read, good⟩ | ⟨bad, cause, failed⟩
    · exact iff_of_true ⟨q, read⟩ good
    · refine iff_of_false ?_ bad
      rintro ⟨q, read⟩
      cases failed.symm.trans read
  · intro f failed
    rcases parse_accepts identifier with ⟨q, read, -⟩ | ⟨-, cause, refused⟩
    · cases failed.symm.trans read
    · cases failed.symm.trans refused
      exact ⟨cause, rfl⟩
  · exact parse_eq_ok_iff.mpr ⟨good, _, good.scope.spelled, rfl⟩

/-- The second equals sign belongs to the name, and two slashes in a row force a device. -/
theorem parse_forced_device :
    let q : ValueQuery := ⟨"=TQ", some ⟨.device, "HDMI 1"⟩, .named "Voice=Call", true⟩
    q.WellFormed ∧ q.text = "==TQ//HDMI 1/Voice=Call" ∧
      parse "==TQ//HDMI 1/Voice=Call" = .ok q ∧
      Grammatical ((unmarked "==TQ//HDMI 1/Voice=Call").splitOn '/') := by
  intro q
  have spelled : q.scope.Spelled ["", "HDMI 1", "Voice=Call"] :=
    .deviceVerb (by decide) (by decide)
  have good : q.WellFormed := ⟨by decide, nofun, spelled.wellFormed⟩
  have written : q.text = "==TQ//HDMI 1/Voice=Call" := by decide
  have read := parse_grammar.2 q good
  rw [written] at read
  obtain ⟨accepted, -⟩ := parse_grammar.1 "==TQ//HDMI 1/Voice=Call"
  exact ⟨good, written, read, accepted.mp ⟨q, read⟩⟩

end ValueQuery

end UseCase
