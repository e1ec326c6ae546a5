import AifHandoff.Lib.Regex

/-!
The normal form of a verification command
(`normalizeImplementationVerificationCommandText`, `shared/implementationManifest.ts`).

Two spellings of one command are compared by this form: white space and case are
evened out, package-manager shims and `exec` become `npx`, and the many ways to
run `npm test` become `npm test -- ...`.
-/

namespace AifHandoff.Shared

open Regex

/-- `(npm|npx|pnpm|yarn|bun)\.cmd` as a word. -/
def commandShim : Regex :=
  cat [.wordBoundary, .capture 1 (anyOf [lit "npm", lit "npx", lit "pnpm", lit "yarn", lit "bun"]),
    lit ".cmd", .wordBoundary]

/-- `\b(?:npm|pnpm|yarn|bun)\s+exec\s+`. -/
def packageExec : Regex :=
  cat [.wordBoundary, anyOf [lit "npm", lit "pnpm", lit "yarn", lit "bun"], some1 space, lit "exec",
    some1 space]

/-- `tokens.indexOf(token)`, `none` for `-1`. -/
def indexOf (tokens : List String) (token : String) : Option Nat := tokens.findIdx? (· == token)

def isNpmConfigArg (arg : String) : Bool :=
  arg == "-w" || arg == "--workspace" || arg == "--workspaces" || arg == "--if-present" ||
    Text.startsWith arg "--workspace="

def normalizeNpmTestArgs (args : List String) : List String :=
  let cleanedArgs := args.filter (· != "")
  if cleanedArgs.length = 0 then []
  else match indexOf cleanedArgs "--" with
    | some 0 => "--" :: (cleanedArgs.drop 1).filter (· != "--")
    | some (separator + 1) =>
      let beforeSeparator := cleanedArgs.take (separator + 1)
      let afterSeparator := cleanedArgs.drop (separator + 2)
      if beforeSeparator.any isNpmConfigArg || afterSeparator.any (Text.startsWith · "-") then
        beforeSeparator ++ ["--"] ++ afterSeparator
      else "--" :: (beforeSeparator ++ afterSeparator)
    | none =>
      if cleanedArgs.any isNpmConfigArg then cleanedArgs
      else
        let positionalArgs := cleanedArgs.filter (!Text.startsWith · "-")
        let optionArgs := cleanedArgs.filter (Text.startsWith · "-")
        if positionalArgs.length > 0 then "--" :: (positionalArgs ++ optionArgs) else cleanedArgs

/-- The index of a `run test` behind further npm arguments. -/
def runTestIndex (tokens : List String) : Option Nat :=
  (List.range tokens.length).find? fun index =>
    index > 1 && tokens[index]? == some "run" && tokens[index + 1]? == some "test" &&
      tokens.contains "--"

def normalizeNpmTestInvocationTokens (tokens : List String) : Option (List String) :=
  if tokens[0]? ≠ some "npm" then none
  else if tokens[1]? = some "test" then
    some (["npm", "test"] ++ normalizeNpmTestArgs (tokens.drop 2))
  else if tokens[1]? = some "run" ∧ tokens[2]? = some "test" then
    some (["npm", "test"] ++ normalizeNpmTestArgs (tokens.drop 3))
  else match runTestIndex tokens with
    | some index =>
      some (["npm", "test"] ++
        normalizeNpmTestArgs ((tokens.take index).drop 1 ++ tokens.drop (index + 2)))
    | none =>
      match indexOf tokens "test" with
      | none => none
      | some testIndex =>
        if testIndex ≤ 1 || !tokens.contains "--" then none
        else some (["npm", "test"] ++
          normalizeNpmTestArgs ((tokens.take testIndex).drop 1 ++ tokens.drop (testIndex + 1)))

def normalizeNpmTestCommandText (value : String) : String :=
  let tokens := (Text.split value ' ').filter (· != "")
  match indexOf tokens "npm" with
  | none => value
  | some npmIndex =>
    match normalizeNpmTestInvocationTokens (tokens.drop npmIndex) with
    | none => value
    | some normalizedInvocation => Text.join " " (tokens.take npmIndex ++ normalizedInvocation)

/-- `toLowerCase` is the one of the platform: the keys of two commands are compared,
so the case of every letter matters. -/
def normalizeImplementationVerificationCommandText (toLowerCase : String → String)
    (value : String) : String :=
  let spaced := replaceAll (some1 space) (fun _ => " ") (Text.trim value)
  let unshimmed := replaceAll commandShim (·.group 1) (toLowerCase spaced)
  let separated := replaceAll (cat [packageExec, lit "--", some1 space]) (fun _ => "npx ") unshimmed
  normalizeNpmTestCommandText (replaceAll packageExec (fun _ => "npx ") separated)

end AifHandoff.Shared
