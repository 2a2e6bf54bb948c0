/-!
# Buzzers

The host's buzzer is on or off. One that sounds plays a short sample over and over on a mixer,
and the calls it makes on the mixer are kept in order. The sample is not started again while it
plays.
-/

namespace Chip8

/-- A call on the mixer. -/
inductive MixerCall where
  /-- Sets the frequency of the samples and named options. -/
  | configure (frequency : Nat) (options : List (String × Nat))
  | start
  /-- Loads a sample. -/
  | load (sample : List Nat)
  /-- Sets the loudness in percent. -/
  | volume (percent : Nat)
  /-- Plays the sample the given number of times more, endlessly if negative. -/
  | play (loops : Int)
  | stop
  | quit
deriving DecidableEq

/-- A buzzer. -/
structure Buzzer where
  /-- Whether it sounds on a mixer. -/
  audible : Bool
  enabled : Bool
  /-- The calls made on the mixer. -/
  calls : List MixerCall
deriving DecidableEq

namespace Buzzer

/-- The number of samples in a second. -/
def sampleFrequency : Nat := 44100

/-- The number of waves in a second. -/
def toneFrequency : Nat := 440

/-- One wave: half of it high and half of it low. -/
def sample : List Nat :=
  let half := sampleFrequency / toneFrequency / 2
  List.replicate half 0xff ++ List.replicate half 0

/-- A buzzer without sound. -/
def silent : Buzzer := ⟨false, false, []⟩

/-- A buzzer with its sample loaded into the mixer. -/
def sounding : Buzzer where
  audible := true
  enabled := false
  calls :=
    [.configure sampleFrequency
        [("allowedchanges", 0), ("buffer", 512), ("channels", 1), ("size", 8)],
      .start, .load sample, .volume 10]

/-- The buzzer after a call on the mixer, which only a sounding one makes. -/
def call (b : Buzzer) (c : MixerCall) : Buzzer :=
  if b.audible then { b with calls := b.calls ++ [c] } else b

/-- The buzzer after it is switched on or off. -/
def switch (b : Buzzer) (on : Bool) : Buzzer :=
  let b :=
    match b.enabled, on with
    | false, true => b.call (.play (-1))
    | true, false => b.call .stop
    | _, _ => b
  { b with enabled := on }

/-- The buzzer after it is shut down. -/
def close (b : Buzzer) : Buzzer :=
  { (b.call .stop).call .quit with enabled := false }

end Buzzer

end Chip8
