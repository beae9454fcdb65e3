import HeaderBindings.CommandLine

/-!
# The program

The outer layer of the command line: it looks at the files and variables that a request may need,
hands them over, and does what the outcome says. Tools are not run, so that calls of tools in flags
stand for nothing.
-/

namespace HeaderBindings.CommandLine

/-- Why the system refuses access to a file, by the number that it gives. -/
def accessErrorOfCode (code : UInt32) (details : String) : AccessError :=
  match code with
  | 2 => .notFound
  | 20 => .notDirectory
  | 21 => .isDirectory
  | 36 => .nameTooLong
  | code => .other (details ++ " (os error " ++ code.toNat.repr ++ ")")

def accessErrorOf : IO.Error → AccessError
  | .noFileOrDirectory _ code details => accessErrorOfCode code details
  | .inappropriateType _ code details => accessErrorOfCode code details
  | .permissionDenied _ code details => accessErrorOfCode code details
  | .invalidArgument _ code details => accessErrorOfCode code details
  | e => .other (toString e)

def look (path : String) : IO (String × Except AccessError (List UInt8)) := do
  if path.toList.contains '\x00' then return (path, .error .nulInPath)
  try
    return (path, .ok (← IO.FS.readBinFile path).toList)
  catch e =>
    return (path, .error (accessErrorOf e))

def surroundingsOf (files : List (String × Except AccessError (List UInt8)))
    (values : List (String × Option String)) : Surroundings where
  read path := (files.lookup path).getD (.error .notFound)
  isFile path := ((files.lookup path).map fun content => content.toOption.isSome).getD false
  valueOf? name := (values.lookup name).join
  output? _ _ := none

/-- The surroundings for a run over the configuration at a path. -/
def observe (path : String) : IO Surroundings := do
  let file ← look path
  let bare := surroundingsOf [file] []
  match Config.load bare path with
  | .error _ => return bare
  | .ok config =>
    let names := Flags.references bare.runTool config.cflags
    let values ← names.mapM fun name => do return (name, ← IO.getEnv name)
    let dirs := config.includeDirs (surroundingsOf [file] values)
    let files ← (Generation.symbolFile path ::
      config.headers.flatMap (Config.candidates dirs)).mapM look
    return surroundingsOf (file :: files) values

def perform : Outcome → IO Answer
  | .done answer => return answer
  | .write path content answer => do
    try
      IO.FS.writeBinFile path ⟨content.toArray⟩
      return answer (.ok ())
    catch e =>
      return answer (.error (accessErrorOf e))

def answerTo (arguments : List String) : IO Answer := do
  let request := Request.ofArguments arguments
  let s ←
    match request.config? with
    | some path => observe path
    | none => pure (surroundingsOf [] [])
  perform (request.outcome s)

end HeaderBindings.CommandLine

open HeaderBindings.CommandLine in
/-- The program: prints the answer to its arguments. -/
def main (arguments : List String) : IO UInt32 := do
  let answer ← answerTo arguments
  let messages := answer.warnings ++ answer.failure.toList
  messages.forM fun message => IO.eprintln message
  if answer.exitCode = 2 then IO.eprint Topic.program.text
  IO.print answer.output
  return answer.exitCode.toUInt32
