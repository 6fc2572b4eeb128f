import UseCase.Card

/-!
# A sample card

A small card for trials: a verb in which speaker and headphones exclude each other, the microphone
is free and a modifier needs the speaker, and a second verb with one device. Each sequence writes a
single control that tells what was run.
-/

namespace UseCase.Sample

/-- The name of the sample card. -/
def cardName : String := "TestCard"

/-- The sequence that leaves a trace of its name. -/
def tagged (control : String) : Sequence :=
  .write control "1"

/-- An entity whose sequences write its name with `on` and `off`. -/
def entity (kind : Kind) (name : String) (priority : Nat) : Entity :=
  { Entity.plain kind name with
    priority := priority
    enable := tagged (name ++ " on")
    disable := tagged (name ++ " off") }

/-- The verb for music. -/
def hifi : Verb :=
  { Verb.plain "HiFi" with
    comment := some "Play HiFi quality music"
    values := ⟨[("TQ", "HiFi"), ("CapturePCM", "hw:0,9")]⟩
    enable := tagged "HiFi on"
    disable := tagged "HiFi off"
    devices := [
      { entity .device "Speaker" 10 with
        comment := some "Internal speaker"
        values := ⟨[("PlaybackPCM", "hw:0,0")]⟩
        transitions := [("Headphones", tagged "Speaker to Headphones")] },
      { entity .device "Headphones" 20 with
        values := ⟨[("PlaybackPCM", "hw:0,1")]⟩
        constraint := .conflicting ["Speaker"] },
      { entity .device "Mic" 5 with
        values := ⟨[("CapturePCM", "hw:0,2")]⟩ }]
    modifiers := [
      { entity .modifier "Play Tone" 100 with
        values := ⟨[("PlaybackPCM", "hw:0,5")]⟩
        constraint := .supported ["Speaker"] }] }

/-- The verb for calls. -/
def voiceCall : Verb :=
  { Verb.plain "Voice Call" with
    values := ⟨[("TQ", "Voice")]⟩
    devices := [
      { entity .device "Handset" 10 with
        values := ⟨[("PlaybackPCM", "hw:0,3")]⟩ }] }

/-- The sample card. -/
def card : Card where
  info := .plain cardName
  defaults := ⟨[("PlaybackCTL", "hw:0"), ("TQ", "Default")]⟩
  fixedBoot := tagged "fixed boot"
  boot := tagged "boot"
  defaultsSequence := tagged "defaults"
  verbs := [hifi, voiceCall]

end UseCase.Sample
