-- The words of a command line: which are options, which are values of options, and which stand
-- for themselves.

namespace Custody.Command

inductive UsageFault where
  | nothingGiven
  | missingCommand
  | unknownCommand
  | helpAsked
  | unknownWord
  | missingWord
  | givenTwice
  | missingValue
  | refusedValue
  | unneededValue
  deriving DecidableEq, Repr

structure OptionForm where
  long : String
  short : Option Char := none
  takesValue : Bool := false
  refuses : String → Option UsageFault := fun _ => none

structure LineForm where
  options : List OptionForm := []
  words : Nat := 0
  commands : List String := []

inductive Word where
  | escape
  | long (name : String) (value : Option String)
  | short (letters : List Char)
  | plain

def splitEquals (cs : List Char) : List Char × Option (List Char) :=
  match cs.dropWhile (· ≠ '=') with
  | [] => (cs,none)
  | _ :: value => (cs.takeWhile (· ≠ '='),some value)

def Word.of (s : String) : Word :=
  match s.toList with
  | ['-','-'] => escape
  | '-' :: '-' :: rest =>
    let (name,value) := splitEquals rest
    long (String.ofList name) (value.map String.ofList)
  | ['-'] => plain
  | '-' :: letters => short letters
  | _ => plain

structure Reading where
  options : List (String × String) := []
  words : List String := []
  pending : Option (OptionForm × Option String) := none

namespace Reading

def isWaiting (reading : Reading) : Bool :=
  match reading.pending with
  | some (_,none) => true
  | _ => false

def give (reading : Reading) (form : OptionForm) (value : String) : Except UsageFault Reading :=
  if reading.options.any (fun given => given.1 == form.long) then .error .givenTwice
  else match form.refuses value with
    | some fault => .error fault
    | none => .ok { reading with options := reading.options ++ [(form.long,value)] }

def settle (reading : Reading) : Except UsageFault Reading :=
  match reading.pending with
  | none => .ok reading
  | some (_,none) => .error .missingValue
  | some (form,some value) => { reading with pending := none }.give form value

def asksHelp (reading : Reading) : Except UsageFault Reading :=
  match reading.settle with
  | .error fault => .error fault
  | .ok _ => .error .helpAsked

def long (form : LineForm) (reading : Reading) (name : String) (value : Option String) :
    Except UsageFault Reading :=
  match form.options.find? (fun option => option.long == name),value with
  | some option,some value =>
    if option.takesValue then reading.settle.bind fun reading => reading.give option value
    else .error .unneededValue
  | some option,none =>
    if option.takesValue then
      reading.settle.map fun reading => { reading with pending := some (option,none) }
    else reading.settle.bind fun reading => reading.give option ""
  | none,value =>
    if name = "help" then
      if value.isSome then .error .unneededValue else reading.asksHelp
    else .error .unknownWord

-- Reads options by their letters. The first that takes a value takes the rest of the word.
def short (form : LineForm) (reading : Reading) : List Char → Except UsageFault Reading
  | [] => .ok reading
  | c :: rest =>
    match form.options.find? (fun option => option.short == some c) with
    | some option =>
      if option.takesValue then
        match rest with
        | [] => reading.settle.map fun reading => { reading with pending := some (option,none) }
        | '=' :: value =>
          reading.settle.bind fun reading => reading.give option (String.ofList value)
        | value => reading.settle.bind fun reading => reading.give option (String.ofList value)
      else
        match reading.settle.bind (fun reading => reading.give option "") with
        | .error fault => .error fault
        | .ok reading => short form reading rest
    | none => if c = 'h' then reading.asksHelp else .error .unknownWord

def word (form : LineForm) (reading : Reading) (w : String) (escaped : Bool) :
    Except UsageFault Reading :=
  if reading.words.length < form.words then
    reading.settle.map fun reading => { reading with words := reading.words ++ [w] }
  else if form.commands.isEmpty || (escaped && form.commands.contains w) then .error .unknownWord
  else .error .unknownCommand

def escapedWords (form : LineForm) (reading : Reading) : List String → Except UsageFault Reading
  | [] => .ok reading
  | w :: rest =>
    match reading.word form w true with
    | .error fault => .error fault
    | .ok reading => escapedWords form reading rest

-- Reads a line up to a command, if one stands where no value is awaited, and gives the command
-- with the words behind it.
def line (form : LineForm) (reading : Reading) :
    List String → Except UsageFault (Reading × Option (String × List String))
  | [] => .ok (reading,none)
  | w :: rest =>
    if !reading.isWaiting && form.commands.contains w then .ok (reading,some (w,rest))
    else
      let next := match Word.of w with
        | .escape => none
        | .long name value => some (reading.long form name value)
        | .short letters => some (reading.short form letters)
        | .plain => some (match reading.pending with
          | some (option,none) => .ok { reading with pending := some (option,some w) }
          | _ => reading.word form w false)
      match next with
      | none => (reading.escapedWords form rest).map fun reading => (reading,none)
      | some (.error fault) => .error fault
      | some (.ok reading) => line form reading rest

def has (reading : Reading) (name : String) : Bool :=
  reading.options.any fun given => given.1 == name

def value? (reading : Reading) (name : String) : Option String :=
  (reading.options.find? fun given => given.1 == name).map (·.2)

end Reading

end Custody.Command
