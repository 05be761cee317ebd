-- SUMMARY: Frames: the JSON text of a batch behind its length.
import Flowmeter.Flow.RecordJson
import Flowmeter.Flow.Wire

/-!
# Frames

A batch crosses the network as its JSON text, behind the number of bytes of
that text in four bytes, the most significant one first.
-/

namespace Flowmeter.Export

/-- The most bytes a frame may have behind its length. -/
def frameLimit : Nat := 32 * 1024 * 1024

inductive FrameError where
  | json (cause : RecordJsonError)
  | tooLong
deriving DecidableEq

def FrameError.message : FrameError → String
  | .json cause => cause.message
  | .tooLong => "frame size too big"

/-- The length of a frame as it stands in front of it. -/
def lengthBytes (length : Nat) : Bytes := (Bytes.ofNatLE 4 length).reverse

/-- The frame of a text. -/
def frameOf (text : String) : Except FrameError Bytes :=
  let body := text.toUTF8.toList
  if frameLimit < body.length then .error .tooLong
  else .ok (lengthBytes body.length ++ body)

def frame (batch : Batch) : Except FrameError Bytes :=
  match batch.json with
  | .error cause => .error (.json cause)
  | .ok text => frameOf text

/-- Cuts received bytes into the bodies of frames and what is left behind the last one. -/
def bodies (bytes : Bytes) : List Bytes × Bytes :=
  go bytes.length bytes
where
  go : Nat → Bytes → List Bytes × Bytes
    | 0, bytes => ([], bytes)
    | fuel + 1, bytes =>
      let length := Bytes.toNatLE (bytes.take 4).reverse
      let body := bytes.drop 4
      if bytes.length < 4 || body.length < length then ([], bytes)
      else
        let (later, rest) := go fuel (body.drop length)
        (body.take length :: later, rest)

end Flowmeter.Export
