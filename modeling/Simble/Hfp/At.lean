import Mathlib.Algebra.Group.Nat.Defs
import Simble.Text

/-! AT command lines (`classic/at.rs`): tokens, parameters, and the command that
a line is. -/
namespace Simble.Hfp

/-- The message of an `AtParsingError`. -/
abbrev AtParsingError := String

structure Tokenizer where
  tokens : List Bytes
  inQuotes : Bool
  token : Bytes

def comma : UInt8 := 0x2C
def openParen : UInt8 := 0x28
def closeParen : UInt8 := 0x29
def quote : UInt8 := 0x22
def space : UInt8 := 0x20

/-- One octet of `tokenize_parameters`. -/
def Tokenizer.push (state : Tokenizer) (b : UInt8) : Except AtParsingError Tokenizer :=
  let ⟨tokens, inQuotes, token⟩ := state
  if inQuotes then
    let token := token ++ [b]
    if b = quote then .ok ⟨tokens ++ [(token.drop 1).dropLast], false, []⟩
    else .ok ⟨tokens, true, token⟩
  else if b = space then .ok state
  else if b = comma ∨ b = closeParen then .ok ⟨tokens ++ [token, [b]], false, []⟩
  else if b = openParen then
    if token ≠ [] then .error "open_paren following regular character"
    else .ok ⟨tokens ++ [[b]], false, []⟩
  else if b = quote then
    if token ≠ [] then .error "quote following regular character"
    else .ok ⟨tokens, true, [b]⟩
  else .ok ⟨tokens, false, token ++ [b]⟩

def tokenizeParameters (buffer : Bytes) : Except AtParsingError (List Bytes) := do
  let state ← buffer.foldlM Tokenizer.push ⟨[], false, []⟩
  return (state.tokens ++ [state.token]).filter (· ≠ [])

inductive AtParameter where
  | value (bytes : Bytes)
  | list (items : List AtParameter)

namespace AtParameter

def asValue : AtParameter → Option Bytes
  | value bytes => some bytes
  | list _ => none

def asStr (parameter : AtParameter) : Option String := parameter.asValue.bind fromUtf8

end AtParameter

/-- `str::parse::<u32>`: digits behind at most one plus sign. -/
def parseU32 (text : String) : Option UInt32 :=
  let digits := if text.toList.head? = some '+' then text.toList.tail else text.toList
  if digits ≠ [] ∧ digits.all Char.isDigit then
    let value := digits.foldl (fun n c => 10 * n + (c.toNat - '0'.toNat)) 0
    if value < 2 ^ 32 then some (UInt32.ofNat value) else none
  else none

def AtParameter.asU32 (parameter : AtParameter) : Option UInt32 := parameter.asStr.bind parseU32

structure ParameterParser where
  top : List AtParameter
  below : List (List AtParameter)
  current : AtParameter

/-- One token of `parse_parameters`. -/
def ParameterParser.push (state : ParameterParser) (token : Bytes) :
    Except AtParsingError ParameterParser :=
  let ⟨top, below, current⟩ := state
  if token = [comma] then .ok ⟨top ++ [current], below, .value []⟩
  else if token = [openParen] then .ok ⟨[], top :: below, current⟩
  else if token = [closeParen] then
    match below with
    | [] => .error "close_paren without matching open_paren"
    | next :: below => .ok ⟨next, below, .list (top ++ [current])⟩
  else .ok ⟨top, below, .value token⟩

def parseParameters (buffer : Bytes) : Except AtParsingError (List AtParameter) := do
  let tokens ← tokenizeParameters buffer
  let state ← tokens.foldlM ParameterParser.push ⟨[], [], .value []⟩
  if ¬ state.below.isEmpty then throw "missing close_paren"
  else return state.top ++ [state.current]

inductive AtSubCode where
  | none
  | set
  | test
  | read
deriving DecidableEq

structure AtCommand where
  code : String
  subCode : AtSubCode
  parameters : List AtParameter

namespace AtCommand

def splitForm (afterCode : Bytes) : AtSubCode × Bytes :=
  match afterCode.dropPrefix? (utf8 "=?"), afterCode.dropPrefix? (utf8 "="),
    afterCode.dropPrefix? (utf8 "?") with
  | some rest, _, _ => (.test, rest)
  | none, some rest, _ => (.set, rest)
  | none, none, some rest => (.read, rest)
  | none, none, none => (.none, afterCode)

def parseFrom (buffer : Bytes) : Except AtParsingError AtCommand :=
  if (utf8 "AT+").isPrefixOf buffer then do
    let rest := buffer.drop 3
    let code := rest.takeWhile fun b => 0x41 ≤ b && b ≤ 0x5A
    if code = [] then throw "invalid command"
    else
      let (subCode, octets) := splitForm (rest.drop code.length)
      let parameters ← if octets = [] then pure [] else parseParameters octets
      return ⟨String.ofList (code.map fun b => Char.ofNat b.toNat), subCode, parameters⟩
  else if (utf8 "ATA").isPrefixOf buffer then .ok ⟨"A", .none, []⟩
  else if (utf8 "ATD").isPrefixOf buffer then .ok ⟨"D", .none, [.value (buffer.drop 3)]⟩
  else .error "invalid command"

end AtCommand

structure AtResponse where
  code : String
  parameters : List AtParameter

def colon : UInt8 := 0x3A

def AtResponse.parseFrom (buffer : Bytes) : Except AtParsingError AtResponse := do
  let code := buffer.takeWhile (· ≠ colon)
  let octets := buffer.drop (code.length + 1)
  let parameters ← if octets = [] then pure [] else parseParameters octets
  return ⟨fromUtf8Lossy code, parameters⟩

end Simble.Hfp
