import AifHandoff.Lib.Regex

/-!
Requirement questions: their vocabulary and the checks of a question and of an answer
(`shared/requirementsQuestions.ts`).

What a number, a date and a URL is belongs to the platform (`AnswerParsers`).
-/

namespace AifHandoff

open Text Regex

inductive RequirementQuestionStage where
  | requirementsAnalysis | research | design | planning | implementing | review | qa | acceptance
deriving DecidableEq, Repr

inductive RequirementAnswerType where
  | text | textarea | boolean | singleChoice | multiChoice | file | url | number | date
deriving DecidableEq, Repr

inductive RequirementQuestionStatus where
  | open | answered | resolved | dismissed | superseded
deriving DecidableEq, Repr

def RequirementQuestionStatus.text : RequirementQuestionStatus → String
  | .open => "open"
  | .answered => "answered"
  | .resolved => "resolved"
  | .dismissed => "dismissed"
  | .superseded => "superseded"

/-- `Number(..)`, `Date.parse(..)` and `new URL(..)`: which texts they accept. -/
structure AnswerParsers where
  isFiniteNumber : String → Bool
  isDate : String → Bool
  isUrl : String → Bool

def rawSecretRequestPattern : Regex :=
  cat [.wordBoundary,
    anyOf [litI "password", litI "passphrase",
      cat [litI "api", optional (oneOf "_ -"), litI "key"],
      litI "secret", litI "token", litI "bearer", litI "private key"],
    .wordBoundary]

def credentialRefPattern : Regex :=
  cat [.wordBoundary,
    anyOf [cat [litI "credential", optional (oneOf "_ -"), litI "ref"],
      cat [litI "secret", optional (oneOf "_ -"), litI "ref"],
      litI "reference", litI "env var"],
    .wordBoundary]

def asksForRawSecret (question : String) : Bool :=
  test rawSecretRequestPattern question && !test credentialRefPattern question

/-- `[A-Za-z0-9_-]`. -/
def keyCharacter : Regex := .set fun c => c.isAlphanum || c == '_' || c == '-'

def privateKeyPattern : Regex :=
  cat [litI "-----BEGIN ",
    optional (anyOf [litI "RSA ", litI "EC ", litI "OPENSSH ", litI "DSA "]),
    litI "PRIVATE KEY-----"]

def bearerPattern : Regex :=
  cat [.wordBoundary, litI "Bearer", some1 space,
    atLeast 16 (.set fun c => c.isAlphanum || "._~+/=-".toList.contains c), .wordBoundary]

def assignedSecretPattern : Regex :=
  cat [.wordBoundary,
    anyOf [litI "password", cat [litI "api", optional (oneOf "_-"), litI "key"],
      litI "secret", litI "token"],
    many space, oneOf ":=", many space, atLeast 4 (.set fun c => !isSpace c)]

def webTokenPattern : Regex :=
  cat [.wordBoundary, atLeast 24 keyCharacter, lit ".", atLeast 12 keyCharacter, lit ".",
    atLeast 12 keyCharacter, .wordBoundary]

def providerKeyPattern : Regex :=
  cat [.wordBoundary,
    anyOf [litI "sk", litI "pk", litI "ghp", litI "glpat",
      cat [litI "xox", oneOf "baprsBAPRS"]],
    oneOf "-_", atLeast 16 keyCharacter, .wordBoundary]

def containsSecretLikeAnswer (value : String) : Bool :=
  let trimmed := trim value
  !trimmed.isEmpty && [privateKeyPattern, bearerPattern, assignedSecretPattern, webTokenPattern,
    providerKeyPattern].any (test · trimmed)

/-- `/^(true|false|yes|no|да|нет)$/i`; the Cyrillic letters fold as well. -/
def booleanPattern : Regex :=
  cat [.startAnchor,
    anyOf [litI "true", litI "false", litI "yes", litI "no",
      cat [oneOf "дД", oneOf "аА"], cat [oneOf "нН", oneOf "еЕ", oneOf "тТ"]],
    .endAnchor]

/-- The error of an answer that is refused. -/
def validateRequirementAnswer (parsers : AnswerParsers) (answerType : RequirementAnswerType)
    (answer : String) (options : Option (List String)) : Except String Unit :=
  let value := trim answer
  let check (ok : Bool) (error : String) : Except String Unit := if ok then .ok () else .error error
  if value.isEmpty then .error "Answer is required"
  else if containsSecretLikeAnswer value then
    .error "Answer appears to contain a secret. Use a credential reference instead."
  else match answerType with
    | .boolean => check (test booleanPattern value) "Answer must be boolean"
    | .singleChoice =>
      check (options.any (·.contains value)) "Answer must match one of the options"
    | .multiChoice =>
      let selected := ((split value ',').map trim).filter (!·.isEmpty)
      check (options.all fun options => options.isEmpty || selected.all (options.contains ·))
        "Every selected answer must match the available options"
    | .number => check (parsers.isFiniteNumber value) "Answer must be a number"
    | .date => check (parsers.isDate value) "Answer must be a date"
    | .url => check (parsers.isUrl value) "Answer must be a URL"
    | .text | .textarea | .file => .ok ()

end AifHandoff
