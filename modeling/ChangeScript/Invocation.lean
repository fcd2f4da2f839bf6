/-
The arguments of the command line.

An option is a word after two dashes, or letters after one dash, of which the
last may take the rest of its argument as its value.  The first argument that is
no option names a command; if it names none, it is a file to check.
-/

import ChangeScript.Marker

set_option autoImplicit false

namespace ChangeScript

open Text

inductive Listing where
  | none
  | json
  | dump
deriving DecidableEq, Repr

inductive Job where
  | check (file : Text) (listing : Listing) (delimiters : Delimiters)
  | format (file : Text) (delimiters : Delimiters)
  | test (path : Text) (requests : List Text) (listOnly : Bool)
deriving DecidableEq, Repr

def Job.path : Job → Text
  | .check file _ _ => file
  | .format file _ => file
  | .test path _ _ => path

structure Invocation where
  uncoloured : Bool
  job : Job
deriving DecidableEq, Repr

namespace Invocation

inductive Answer where
  | version
  | help
  | misuse
deriving DecidableEq, Repr

inductive Switch where
  | uncoloured
  | verbose
  | help
  | version
  | json
  | dump
  | listOnly
deriving DecidableEq, Repr

inductive Setting where
  | opening
  | closing
  | category
deriving DecidableEq, Repr

inductive Choice where
  | switch (switch : Switch)
  | setting (setting : Setting)
deriving DecidableEq, Repr

structure Grammar where
  words : List (Text × Choice)
  letters : List (Char × Choice)
deriving DecidableEq, Repr

def sharedGrammar : Grammar :=
  { words := [("no-color".toList, .switch .uncoloured), ("verbose".toList, .switch .verbose),
      ("help".toList, .switch .help)]
    letters := [('v', .switch .verbose), ('h', .switch .help)] }

def delimiterWords : List (Text × Choice) :=
  [("start-delimiter".toList, .setting .opening), ("end-delimiter".toList, .setting .closing)]

def frontGrammar : Grammar :=
  { words := ("version".toList, .switch .version) :: sharedGrammar.words
    letters := ('V', .switch .version) :: sharedGrammar.letters }

def checkGrammar : Grammar :=
  { words := [("ast".toList, .switch .dump), ("json".toList, .switch .json)] ++
      delimiterWords ++ sharedGrammar.words
    letters := sharedGrammar.letters }

def formatGrammar : Grammar :=
  { words := delimiterWords ++ sharedGrammar.words
    letters := sharedGrammar.letters }

def testGrammar : Grammar :=
  { words := [("category".toList, .setting .category),
      ("list-categories".toList, .switch .listOnly)] ++ sharedGrammar.words
    letters := ('c', .setting .category) :: sharedGrammar.letters }

structure Given where
  switches : List Switch
  settings : List (Setting × Text)
  operand : Option Text
deriving DecidableEq, Repr

def Given.nothing : Given := ⟨[], [], none⟩

/-- Add a switch.  Only the one for more messages may be repeated. -/
def Given.addSwitch (given : Given) (switch : Switch) : Except Answer Given :=
  if switch = .help then .error .help
  else if switch = .version then .error .version
  else if switch ≠ .verbose ∧ switch ∈ given.switches then .error .misuse
  else .ok { given with switches := given.switches ++ [switch] }

/-- Add a setting.  Only categories may be repeated. -/
def Given.addSetting (given : Given) (setting : Setting) (value : Text) : Except Answer Given :=
  if setting ≠ .category ∧ given.settings.any (fun earlier => earlier.1 = setting) then
    .error .misuse
  else .ok { given with settings := given.settings ++ [(setting, value)] }

def Given.addOperand (given : Given) (value : Text) : Except Answer Given :=
  if given.operand.isSome then .error .misuse else .ok { given with operand := some value }

def isOption : Text → Bool
  | '-' :: _ :: _ => true
  | _ => false

def canFollow (setting : Setting) (value : Text) : Bool :=
  match setting with
  | .opening | .closing => true
  | .category => !isOption value

/-- What an argument leads to: more that is given, with a setting that waits for
its value in the next argument. -/
structure Reading where
  given : Given
  waiting : Option Setting
deriving DecidableEq, Repr

def readLetters (grammar : Grammar) (given : Given) : Text → Except Answer Reading
  | [] => .ok ⟨given, none⟩
  | letter :: rest =>
      match grammar.letters.find? fun known => known.1 = letter with
      | none => .error .misuse
      | some (_, .switch switch) =>
          match given.addSwitch switch with
          | .error answer => .error answer
          | .ok next => readLetters grammar next rest
      | some (_, .setting setting) =>
          if rest = [] then .ok ⟨given, some setting⟩
          else
            match given.addSetting setting ((['='].isPrefixOf? rest).getD rest) with
            | .error answer => .error answer
            | .ok next => .ok ⟨next, none⟩

def readWord (grammar : Grammar) (given : Given) (word : Text) : Except Answer Reading :=
  let name := word.takeWhile fun c => c ≠ '='
  let value := word.dropWhile fun c => c ≠ '='
  match grammar.words.find? fun known => known.1 = name with
  | none => .error .misuse
  | some (_, .switch switch) =>
      if value ≠ [] then .error .misuse
      else
        match given.addSwitch switch with
        | .error answer => .error answer
        | .ok next => .ok ⟨next, none⟩
  | some (_, .setting setting) =>
      if value = [] then .ok ⟨given, some setting⟩
      else
        match given.addSetting setting (value.drop 1) with
        | .error answer => .error answer
        | .ok next => .ok ⟨next, none⟩

def readOption (grammar : Grammar) (given : Given) (argument : Text) : Except Answer Reading :=
  match "--".toList.isPrefixOf? argument with
  | some word => readWord grammar given word
  | none => readLetters grammar given (argument.drop 1)

def readOperands (given : Given) : List Text → Except Answer Given
  | [] => .ok given
  | argument :: rest =>
      match given.addOperand argument with
      | .error answer => .error answer
      | .ok next => readOperands next rest

def readArguments (grammar : Grammar) (given : Given) : List Text → Except Answer Given
  | [] => .ok given
  | argument :: rest =>
      if argument = "--".toList then readOperands given rest
      else if isOption argument then
        match readOption grammar given argument with
        | .error answer => .error answer
        | .ok ⟨next, none⟩ => readArguments grammar next rest
        | .ok ⟨next, some setting⟩ =>
            match rest with
            | [] => .error .misuse
            | value :: after =>
                if canFollow setting value then
                  match next.addSetting setting value with
                  | .error answer => .error answer
                  | .ok more => readArguments grammar more after
                else .error .misuse
      else
        match given.addOperand argument with
        | .error answer => .error answer
        | .ok next => readArguments grammar next rest

/-! ### Commands -/

inductive Verb where
  | check
  | format
  | test
deriving DecidableEq, Repr

def verbNames : List (Text × Verb) :=
  [("check".toList, .check), ("fmt".toList, .format), ("test".toList, .test)]

def verb? (name : Text) : Option Verb :=
  (verbNames.find? fun known => known.1 = name).map fun known => known.2

def helpName : Text := "help".toList

def isCommand (name : Text) : Bool := (verb? name).isSome || name = helpName

/-- Put the name of the check command before a first operand that names none. -/
def withCommand : List Text → List Text
  | [] => []
  | argument :: rest =>
      if argument.head? = some '-' then argument :: withCommand rest
      else if isCommand argument then argument :: rest
      else "check".toList :: argument :: rest

def Verb.grammar : Verb → Grammar
  | .check => checkGrammar
  | .format => formatGrammar
  | .test => testGrammar

def Given.delimiters (given : Given) : Delimiters :=
  let value := fun setting : Setting =>
    (given.settings.find? fun known => known.1 = setting).map fun known => known.2
  ⟨(value .opening).getD Delimiters.standard.opening,
    (value .closing).getD Delimiters.standard.closing⟩

def Given.requests (given : Given) : List Text :=
  (given.settings.filter fun known => known.1 = .category).map fun known => known.2

def Given.listing (given : Given) : Except Answer Listing :=
  match decide (.json ∈ given.switches), decide (.dump ∈ given.switches) with
  | true, true => .error .misuse
  | true, false => .ok .json
  | false, true => .ok .dump
  | false, false => .ok .none

def Given.job (given : Given) (verb : Verb) : Except Answer Job :=
  match given.operand, verb with
  | none, _ => .error .misuse
  | some file, .check => given.listing.map fun listing => .check file listing given.delimiters
  | some file, .format => .ok (.format file given.delimiters)
  | some path, .test => .ok (.test path given.requests (.listOnly ∈ given.switches))

def readCommand (front : Given) (verb : Verb) (arguments : List Text) :
    Except Answer Invocation :=
  match readArguments verb.grammar .nothing arguments with
  | .error answer => .error answer
  | .ok given =>
      (given.job verb).map fun job =>
        ⟨.uncoloured ∈ front.switches || .uncoloured ∈ given.switches, job⟩

def helpAnswer : List Text → Answer
  | [] => .help
  | [topic] => if isCommand topic then .help else .misuse
  | _ => .misuse

def readFront (given : Given) : List Text → Except Answer Invocation
  | [] => .error .misuse
  | argument :: rest =>
      if argument = "--".toList then .error .misuse
      else if isOption argument then
        match readOption frontGrammar given argument with
        | .error answer => .error answer
        | .ok reading => readFront reading.given rest
      else if argument = helpName then .error (helpAnswer rest)
      else
        match verb? argument with
        | none => .error .misuse
        | some verb => readCommand given verb rest

def read (arguments : List Text) : Except Answer Invocation :=
  readFront .nothing (withCommand arguments)

end Invocation

end ChangeScript
