import JsonTemplate.CommandLine.Run

set_option autoImplicit false

/-! The command line program: it reads the document that the arguments name, calls
`JsonTemplate.CommandLine.run` and writes what that returns. -/

namespace JsonTemplate.Main

open JsonTemplate.CommandLine

/-- The number of a system error. Some calls report it with a minus sign. -/
def systemNumber (code : UInt32) : Nat :=
  if code < 0x80000000 then code.toNat else (0 - code).toNat

def systemFault (code : UInt32) (details : String) : SourceFault :=
  match systemNumber code with
  | 2 => .notFound
  | 20 => .notADirectory
  | 21 => .isADirectory
  | number =>
      let worded : Text := match details.toList with
        | [] => []
        | first :: rest => first.toUpper :: rest
      .other (worded ++ " (os error ".toList ++ Text.ofNat number ++ [')'])

def sourceFault (error : IO.Error) : SourceFault :=
  match error with
  | .noFileOrDirectory _ _ _ => .notFound
  | .inappropriateType _ code details => systemFault code details
  | .permissionDenied _ code details => systemFault code details
  | .invalidArgument _ code details => systemFault code details
  | .resourceExhausted _ code details => systemFault code details
  | .otherError code details => systemFault code details
  | other => .other (toString other).toList

def fetch (read : IO ByteArray) : IO (Except SourceFault (List UInt8)) := do
  try
    return .ok (← read).toList
  catch error =>
    return .error (sourceFault error)

def worldOf (stdin : Except SourceFault (List UInt8))
    (file : Text → Except SourceFault (List UInt8)) : World :=
  { stdin := stdin, file := file, help := fun _ => [],
    complaint := fun _ => "unexpected arguments".toList }

def worldFor (request : Option Request) : IO World := do
  let nothing : Except SourceFault (List UInt8) := .ok []
  let source := match request with
    | some (.run arguments) =>
        match arguments.command with
        | .render document _ _ _ => some document
        | .resolve document _ => some document
        | .decode _ => none
    | _ => none
  match source with
  | some .stdin =>
      let bytes ← fetch (do (← IO.getStdin).readBinToEnd)
      return worldOf bytes (fun _ => nothing)
  | some (.file path) =>
      let bytes ← fetch (IO.FS.readBinFile (String.ofList path))
      return worldOf nothing (fun _ => bytes)
  | _ => return worldOf nothing (fun _ => nothing)

end JsonTemplate.Main

def main (arguments : List String) : IO UInt32 := do
  let texts := arguments.map String.toList
  let world ← JsonTemplate.Main.worldFor (JsonTemplate.CommandLine.request? texts)
  let ending := JsonTemplate.CommandLine.run world texts
  for entry in ending.log do
    IO.eprintln (String.ofList entry)
  IO.print (String.ofList ending.output)
  match ending.failure with
  | some message => IO.eprintln ("error: " ++ String.ofList message)
  | none => pure ()
  return UInt32.ofNat ending.code
