import StreamedInference.Decoder.Backend

/-!
# Traces of a library

The calls to the library of a token model as lines of text. Numbers in single precision are shown
by their bits.
-/

namespace StreamedInference

/-- The bits of a number as eight hexadecimal digits. -/
def Single.bitsText (x : Single) : String :=
  let digits := Nat.toDigits 16 x.bits.toNat
  String.ofList (List.replicate (8 - digits.length) '0' ++ digits)

/-- A stage as it is shown in a trace. -/
def SamplerStage.line : SamplerStage → String
  | .penalties last repetition frequency presence =>
    "penalties(" ++ toString last ++ "," ++ repetition.bitsText ++ "," ++ frequency.bitsText ++
      "," ++ presence.bitsText ++ ")"
  | .topK count => "top_k(" ++ toString count.toInt ++ ")"
  | .topP share least => "top_p(" ++ share.bitsText ++ "," ++ toString least ++ ")"
  | .temperature t => "temp(" ++ t.bitsText ++ ")"
  | .draw => "dist"
  | .greedy => "greedy"

/-- An entry of a batch as it is shown in a trace; a star marks what is wanted. -/
def BatchEntry.line (e : BatchEntry) : String :=
  toString e.token ++ "@" ++ toString e.position ++ "/[0]" ++ if e.wanted then "*" else ""

/-- A call as it is shown in a trace. -/
def BackendCall.line : BackendCall → String
  | .load path layers => "load " ++ path ++ " gpu_layers=" ++ toString layers
  | .openContext size => "context n_ctx=" ++ toString size ++ " n_batch=" ++ toString size
  | .tokenize bytes => "tokenize " ++ toString bytes ++ " bos=true"
  | .newBatch capacity => "batch.new " ++ toString capacity ++ " 1"
  | .decode batch => " ".intercalate ("decode" :: batch.map BatchEntry.line)
  | .buildSampler stages => " ".intercalate ("sampler" :: stages.map SamplerStage.line)
  | .sample entry => "sample " ++ toString entry

end StreamedInference
