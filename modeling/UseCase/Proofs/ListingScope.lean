import UseCase.Proofs.ValueQuery
import UseCase.Query.Listing

/-!
# Listings and value queries with the same scope

Behind its name a value identifier has a scope, and so does the identifier of a listing about a
device or modifier behind its word. `Scope.parse_behind` says once how what follows the first slash
is read; neither the name nor the word has a part in it.

The main statement `Listing.addresses_like_value` is that a listing and a value query with the same
scope are about the same anchor in the same verb, and that a scope without an anchor makes no
listing.
-/

namespace UseCase

variable {name : String}

/-- The word in front of a listing. -/
def Aspect.word : Aspect → String
  | identifiers => "_identifiers"
  | supportedDevices => "_supporteddevs"
  | conflictingDevices => "_conflictingdevs"

/-- The word for an aspect is one segment. -/
lemma Aspect.isSegment_word (aspect : Aspect) : IsSegment aspect.word := by
  cases aspect <;> decide

/-- What follows the first slash is read as a scope, whatever name is in front of it. -/
lemma Scope.parse_behind (segment : IsSegment name) (tail : List Char) :
    parse (name.toList ++ '/' :: tail) =
      match ofSegments? (Text.segments '/' tail) with
      | some s => .ok (name.toList, s)
      | none => .error (.invalid (.segments (String.ofList (name.toList ++ '/' :: tail)))) := by
  rw [parse, Text.segments_append, Text.segments_whole segment.2]
  cases read : ofSegments? (Text.segments '/' tail) with
  | some s => simp only [List.singleton_append, read, if_neg segment.toList_ne_nil]
  | none => simp only [List.singleton_append, read]

/-- A name that does not begin with the mark is read with the scope behind it. -/
lemma ValueQuery.parse_behind (segment : IsSegment name) (unmarked : name.toList.head? ≠ some '=')
    (tail : String) :
    parse (name ++ "/" ++ tail) = parseScoped false (name.toList ++ '/' :: tail.toList) := by
  have first : (name ++ "/" ++ tail).toList.head? = name.toList.head? := by
    rw [Text.toList_behind, List.head?_append, Option.or_of_isSome]
    exact List.isSome_head?.mpr segment.toList_ne_nil
  rw [(parse_of_unmarked (first ▸ unmarked)).2, Text.toList_behind]

/-- The word of a listing with something behind it is not taken for another one. -/
lemma Listing.parse_behind (aspect : Aspect) (tail : String) :
    parse (some (aspect.word ++ "/" ++ tail)) =
      parseAbout aspect (aspect.word ++ "/" ++ tail) := by
  have apart := Text.cut_behind aspect.isSegment_word.2 tail
  rw [parse, apart]
  · cases aspect <;> rfl
  · intro empty
    rw [empty] at apart
    cases apart

/-- With the same text behind the first slash, a listing about a device or modifier is read exactly
if a value query is read that has an anchor, and then both have the same anchor and the same verb.
If the query has no anchor, or is malformed, then the listing is malformed. -/
theorem Listing.addresses_like_value (segment : IsSegment name)
    (unmarked : name.toList.head? ≠ some '=') (aspect : Aspect) (tail : String) :
    (∀ anchor verb,
      Listing.parse (some (aspect.word ++ "/" ++ tail)) = .ok (.about aspect anchor verb) ↔
        ∃ q, ValueQuery.parse (name ++ "/" ++ tail) = .ok q ∧
          q.anchor = some anchor ∧ q.verb = verb) ∧
    ((∀ q, ValueQuery.parse (name ++ "/" ++ tail) = .ok q → q.anchor = none) →
      ∃ cause, Listing.parse (some (aspect.word ++ "/" ++ tail)) = .error (.invalid cause)) := by
  rw [Listing.parse_behind, ValueQuery.parse_behind segment unmarked, Listing.parseAbout,
    ValueQuery.parseScoped, Text.toList_behind, Scope.parse_behind aspect.isSegment_word,
    Scope.parse_behind segment]
  cases Scope.ofSegments? (Text.segments '/' tail.toList) with
  | none =>
    refine ⟨fun anchor verb => iff_of_false (fun listed => by cases listed) ?_, fun _ => ⟨_, rfl⟩⟩
    rintro ⟨q, asked, -⟩
    cases asked
  | some s =>
    obtain ⟨anchor?, verb⟩ := s
    cases anchor? with
    | none =>
      refine ⟨fun anchor verb => iff_of_false (fun listed => by cases listed) ?_, fun _ => ⟨_, rfl⟩⟩
      rintro ⟨q, asked, anchored, -⟩
      cases asked
      cases anchored
    | some own =>
      refine ⟨fun anchor verb' => ⟨fun listed => ?_, ?_⟩, fun free => ?_⟩
      · cases listed
        exact ⟨_, rfl, rfl, rfl⟩
      · rintro ⟨q, asked, anchored, selected⟩
        cases asked
        cases anchored
        cases selected
        rfl
      · cases free _ rfl

/-- A device is forced by an empty segment in both, and a verb alone makes no listing. -/
theorem Listing.addresses_forced_device :
    IsSegment "a=b" ∧ "a=b".toList.head? ≠ some '=' ∧
      Listing.parse (some "_supporteddevs//HDMI 1/Voice=Call") =
        .ok (.about .supportedDevices ⟨.device, "HDMI 1"⟩ (.named "Voice=Call")) ∧
      ∃ cause, Listing.parse (some "_supporteddevs//Voice=Call") = .error (.invalid cause) := by
  have segment : IsSegment "a=b" := by decide
  have unmarked : "a=b".toList.head? ≠ some '=' := by decide
  obtain ⟨listed, -⟩ :=
    Listing.addresses_like_value segment unmarked .supportedDevices "/HDMI 1/Voice=Call"
  obtain ⟨-, refused⟩ :=
    Listing.addresses_like_value segment unmarked .supportedDevices "/Voice=Call"
  have asked : ValueQuery.parse "a=b//HDMI 1/Voice=Call" =
      .ok ⟨"a=b", some ⟨.device, "HDMI 1"⟩, .named "Voice=Call", false⟩ := by rfl
  have unanchored : ValueQuery.parse "a=b//Voice=Call" =
      .ok ⟨"a=b", none, .named "Voice=Call", false⟩ := by rfl
  refine ⟨segment, unmarked, (listed _ _).mpr ⟨_, asked, rfl, rfl⟩, refused fun q read => ?_⟩
  cases read.symm.trans unanchored
  rfl

end UseCase
