import PathQuery.Regex
import PathQuery.Text.ByteRange

/-!
The shape of an automaton for a regular expression. Literals in a row are one literal, sequences and
alternatives are flat, alternatives that are single characters or sets are one set, what all
alternatives begin with stands before them, and repetitions that make no difference are gone.
-/

namespace PathQuery.Regex

/-- An expression in the form from which an automaton is built. A set comes with its byte ranges. -/
inductive Shape where
  | empty
  | literal (text : List Char)
  | set (chars : CharSet) (sequences : List (List ByteRange))
  | look (look : Look)
  | group (number : Nat) (body : Shape)
  | repeated (body : Shape) (least : Nat) (most : Option Nat)
  | sequence (parts : List Shape)
  | choice (options : List Shape)
deriving BEq

namespace Shape

def ofSet (chars : CharSet) : Shape :=
  match chars.only? with
  | some c => literal [c]
  | none => set chars chars.byteSequences

def parts : Shape → List Shape
  | empty => []
  | sequence parts => parts
  | shape => [shape]

/-- Literals in a row as one. -/
def join : List Shape → List Shape
  | [] => []
  | literal first :: rest =>
      match join rest with
      | literal second :: rest => literal (first ++ second) :: rest
      | rest => literal first :: rest
  | shape :: rest => shape :: join rest

def concat (shapes : List Shape) : Shape :=
  match join (shapes.flatMap parts) with
  | [] => empty
  | [shape] => shape
  | parts => sequence parts

def options : Shape → List Shape
  | choice options => options
  | shape => [shape]

/-- The character of a literal that has one only. -/
def character? : Shape → Option Char
  | literal [c] => some c
  | _ => none

def set? : Shape → Option CharSet
  | set chars _ => some chars
  | _ => none

def sequence? : Shape → Option (List Shape)
  | sequence parts => some parts
  | _ => none

/-- How many parts two sequences have in common at the start. -/
def commonCount : List Shape → List Shape → Nat
  | left :: lefts, right :: rights => if left == right then commonCount lefts rights + 1 else 0
  | _, _ => 0

def plainChoice (shapes : List Shape) : Shape :=
  match shapes.flatMap options with
  | [] => set CharSet.empty []
  | [shape] => shape
  | options =>
      match options.mapM character?, options.mapM set? with
      | some characters, _ =>
          ofSet (CharSet.unionOf (characters.map CharSet.single))
      | none, some sets => ofSet (CharSet.unionOf sets)
      | none, none => choice options

/-- Any of several shapes. What all begin with stands before the choice; what is left of them may
have something in common again, which the fuel counts. -/
def oneOf : Nat → List Shape → Shape
  | 0, shapes => plainChoice shapes
  | fuel + 1, shapes =>
      match plainChoice shapes with
      | choice options =>
          match options.mapM sequence? with
          | some (first :: others) =>
              let shared := others.foldl (fun shared parts => min shared (commonCount first parts))
                first.length
              if shared = 0 then choice options
              else
                let rests := (first :: others).map fun parts => concat (parts.drop shared)
                concat (first.take shared ++ [oneOf fuel rests])
          | _ => choice options
      | shape => shape

mutual

/-- The least number of bytes of a match; nothing when there is no match. -/
def leastLength : Shape → Option Nat
  | empty => some 0
  | literal text => some (text.foldl (fun bytes c => bytes + c.utf8Size) 0)
  | set _ sequences => sequences.head?.map List.length
  | look _ => some 0
  | group _ body => body.leastLength
  | repeated body least _ => body.leastLength.map (· * least)
  | sequence parts => leastOfParts parts
  | choice options => leastOfOptions options

def leastOfParts : List Shape → Option Nat
  | [] => some 0
  | part :: parts => do return (← part.leastLength) + (← leastOfParts parts)

/-- The least of several alternatives. One without a match leaves nothing. -/
def leastOfOptions : List Shape → Option Nat
  | [] => none
  | [option] => option.leastLength
  | option :: options => do return min (← option.leastLength) (← leastOfOptions options)

end

mutual

/-- Whether only the empty text is matched. -/
def matchesOnlyEmpty : Shape → Bool
  | empty | look _ => true
  | literal text => text.isEmpty
  | set _ _ => false
  | group _ body => body.matchesOnlyEmpty
  | repeated body _ most => most == some 0 || (most.isSome && body.matchesOnlyEmpty)
  | sequence parts => allMatchOnlyEmpty parts
  | choice options => allMatchOnlyEmpty options

def allMatchOnlyEmpty : List Shape → Bool
  | [] => true
  | shape :: shapes => shape.matchesOnlyEmpty && allMatchOnlyEmpty shapes

end

/-- A repetition. What matches only the empty text need not be repeated more than once. -/
def repetition (body : Shape) (least : Nat) (most : Option Nat) : Shape :=
  let (least, most) :=
    if body.matchesOnlyEmpty then (min least 1, some (min (most.getD 1) 1)) else (least, most)
  if most == some 0 then empty
  else if least = 1 && most == some 1 then body
  else repeated body least most

/-- A shape that may become a part of a longer sequence or choice. -/
inductive Draft where
  | parts (shapes : List Shape)
  | options (shapes : List Shape)
  | single (shape : Shape)

namespace Draft

def shape : Draft → Shape
  | parts shapes => concat shapes
  | options shapes => oneOf (shapes.length + 1) shapes
  | single shape => shape

def partList : Draft → List Shape
  | parts shapes => shapes
  | draft => [draft.shape]

def optionList : Draft → List Shape
  | options shapes => shapes
  | draft => [draft.shape]

end Draft

def draft : Regex → Draft
  | .empty => .single empty
  | .set chars => .single (ofSet chars)
  | .look condition => .single (look condition)
  | .group none body => .single (draft body).shape
  | .group (some number) body => .single (group number (draft body).shape)
  | .seq first second => .parts ((draft first).shape :: (draft second).partList)
  | .either left right => .options ((draft left).shape :: (draft right).optionList)
  | .repeated body least most => .single (repetition (draft body).shape least most)

def ofRegex (regex : Regex) : Shape :=
  (draft regex).shape

end Shape

end PathQuery.Regex
