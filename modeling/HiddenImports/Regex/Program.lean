import HiddenImports.Regex.Form

/-!
# Programs

An expression is compiled to a list of instructions that name their successors. `compile` builds the
code of an expression in front of the instruction that follows it, so that only loops have to be
patched. The order of the successors of a `fork` is the order of preference.
-/

namespace HiddenImports.Regex

open Unicode (CodeSet)

/-- An instruction and the addresses of those that may follow. -/
inductive Inst where
  /-- Takes one character out of the set. -/
  | take (chars : CodeSet) (next : Nat)
  /-- Goes on at each of the addresses, the first one being preferred. -/
  | fork (nexts : List Nat)
  /-- Notes the position in a slot. -/
  | save (slot : Nat) (next : Nat)
  /-- Goes on if the assertion holds. -/
  | assert (look : Look) (next : Nat)
  /-- A match is found. -/
  | accept

/-- Instructions under construction. -/
abbrev Code := Array Inst

/-- Appends an instruction and returns its address. -/
def emit (inst : Inst) (code : Code) : Nat × Code :=
  (code.size, code.push inst)

/-- The two ways on of a repetition, in the order of preference. -/
def preferring (greedy : Bool) (again onward : Nat) : Inst :=
  .fork (if greedy then [again, onward] else [onward, again])

/-- Code put `n` times in front of what follows. -/
def repeated (part : Nat → Code → Nat × Code) : Nat → Nat → Code → Nat × Code
  | 0, next, code => (next, code)
  | n + 1, next, code =>
    let (start, code) := part next code
    repeated part n start code

/-- Code that may run up to `n` times, each time only after the time before; all ways out lead to
`exit`. -/
def optional (part : Nat → Code → Nat × Code) (greedy : Bool) (exit : Nat) :
    Nat → Nat → Code → Nat × Code
  | 0, next, code => (next, code)
  | n + 1, next, code =>
    let (start, code) := part next code
    let (fork, code) := emit (preferring greedy start exit) code
    optional part greedy exit n fork code

/-- Code that runs once or more. -/
def oneOrMore (part : Nat → Code → Nat × Code) (greedy : Bool) (next : Nat) (code : Code) :
    Nat × Code :=
  let (loop, code) := emit (.fork []) code
  let (start, code) := part loop code
  (start, code.setIfInBounds loop (preferring greedy start next))

/-- Code that runs any number of times. When one round may be empty, skipping all rounds is a choice of
its own before the first one. -/
def zeroOrMore (part : Nat → Code → Nat × Code) (consumes greedy : Bool) (next : Nat) (code : Code) :
    Nat × Code :=
  if consumes then
    let (loop, code) := emit (.fork []) code
    let (start, code) := part loop code
    (loop, code.setIfInBounds loop (preferring greedy start next))
  else
    let (start, code) := oneOrMore part greedy next code
    emit (preferring greedy start next) code

/-- Code that takes the given characters, built from the last one. -/
def takeText (chars : List Char) (next : Nat) (code : Code) : Nat × Code :=
  chars.foldr (fun c (next, code) => emit (.take (CodeSet.range c.toNat c.toNat) next) code) (next, code)

mutual

/-- The code of an expression in front of the instruction at `next`: its address and all code. -/
def compile (e : Expr) (next : Nat) (code : Code) : Nat × Code :=
  match e with
  | .empty => (next, code)
  | .text chars => takeText chars next code
  | .set chars => emit (.take chars next) code
  | .look look => emit (.assert look next) code
  | .group index body =>
    let (close, code) := emit (.save (2 * index + 1) next) code
    let (start, code) := compile body close code
    emit (.save (2 * index) start) code
  | .repeat body min max greedy =>
    match max with
    | some max =>
      let (start, code) := optional (compile body) greedy next (max - min) next code
      repeated (compile body) min start code
    | none =>
      match min with
      | 0 => zeroOrMore (compile body) body.consumes greedy next code
      | min + 1 =>
        let (start, code) := oneOrMore (compile body) greedy next code
        repeated (compile body) min start code
  | .seq parts => compileSeq parts next code
  | .choice branches =>
    let (starts, code) := compileChoice branches next code
    emit (.fork starts) code

/-- The code of a sequence, built from its end. -/
def compileSeq (parts : List Expr) (next : Nat) (code : Code) : Nat × Code :=
  match parts with
  | [] => (next, code)
  | e :: more =>
    let (start, code) := compileSeq more next code
    compile e start code

/-- The code of all branches and their addresses. -/
def compileChoice (branches : List Expr) (next : Nat) (code : Code) : List Nat × Code :=
  match branches with
  | [] => ([], code)
  | e :: more =>
    let (starts, code) := compileChoice more next code
    let (start, code) := compile e next code
    (start :: starts, code)

end

/-- The code of a pattern and where it starts. -/
structure Program where
  code : Code
  start : Nat

/-- The program of an expression. -/
def Program.ofExpr (e : Expr) : Program :=
  let (start, code) := compile e 0 #[.accept]
  ⟨code, start⟩

/-- How often a search may have to look at an instruction while it follows the code at one position. -/
def Program.edges (p : Program) : Nat :=
  p.code.foldl (fun n inst => n + match inst with
    | .fork nexts => nexts.length
    | _ => 1) 1

end HiddenImports.Regex
