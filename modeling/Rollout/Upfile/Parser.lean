import Rollout.Result
import Rollout.Upfile.Basic
import Rollout.Upfile.Cursor

/-!
Reading an Upfile. A machine reads it token by token: between commands, in headers and in bodies it takes one
step at a time, and every step makes its weight smaller (`weight_step_lt`), so that it halts on every text.
What it has read is an Upfile if there is a command in it, and if every guard is another of its commands.
-/

namespace Rollout.Upfile

/-- What the machine is reading. -/
inductive Mode
  /-- The space between commands. -/
  | top
  /-- A comment between commands. -/
  | topComment
  /-- The header of a command, with the guards read so far. -/
  | header (name : Text) (guards : List Text)
  /-- A comment at the end of a header. -/
  | headerComment (name : Text) (guards : List Text)
  /-- The body of a command, with what was read of it, and of the current line if that is indented. -/
  | body (name : Text) (command : Command) (indented : Bool) (line : Text)
  deriving DecidableEq

/-- The machine with what it has read. -/
structure Machine where
  /-- What it is reading. -/
  mode : Mode
  /-- Where it is reading. -/
  cursor : Cursor
  /-- The commands read so far. -/
  commands : Dict Command
  /-- The name of the first command. -/
  first : Option Text
  deriving DecidableEq

namespace Machine

/-- The machine before a text. -/
def ofText (t : Text) : Machine := ⟨.top, .ofText t, .empty, none⟩

/-- The next token, unless it is a stray NUL. -/
def read (c : Cursor) : Except ParseError (Token × Cursor) :=
  match c.read with
  | (t, c') =>
    if t.kind = .error then
      .error (match c'.lexer.fault with | some offset => .strayNul offset | none => .stuck)
    else .ok (t, c')

/-- Put a token back. -/
def putBack (t : Token) (c : Cursor) : Except ParseError Cursor :=
  match c.putBack t with
  | some c' => .ok c'
  | none => .error .stuck

/-- Start reading the header of a command. -/
def openCommand (m : Machine) (name : Text) (c : Cursor) : Except ParseError Machine :=
  if m.commands.contains name then .error (.duplicateCommand name)
  else .ok ⟨.header name [], c, m.commands, some (m.first.getD name)⟩

/-- A step between commands; there is none after the end of the text. -/
def stepTop (m : Machine) : Except ParseError (Option Machine) := do
  let (t, c) ← read m.cursor
  match t.kind with
  | .eof => return none
  | .newline => return some { m with cursor := c }
  | .comment => return some { m with mode := .topComment, cursor := c }
  | .space =>
    let (after, c') ← read c
    match after.kind with
    | .newline | .eof => return some { m with cursor := ← putBack after c' }
    | .comment => return some { m with mode := .topComment, cursor := c' }
    | _ => throw (.indentedHeader t.text)
  | .text => return some (← openCommand m t.text c)
  | .inventory => throw .inlineInventory
  | .tab => throw (.indentedHeader t.text)
  | .error => throw .stuck

/-- A step in a comment between commands, which goes on to the end of its line. -/
def stepTopComment (m : Machine) : Except ParseError (Option Machine) := do
  let (t, c) ← read m.cursor
  match t.kind with
  | .newline | .eof => return some { m with mode := .top, cursor := c }
  | _ => return some { m with cursor := c }

/-- A step in a header, which consists of names. -/
def stepHeader (m : Machine) (name : Text) (guards : List Text) : Except ParseError (Option Machine) := do
  let (t, c) ← read m.cursor
  match t.kind with
  | .text | .inventory => return some { m with mode := .header name (guards ++ [t.text]), cursor := c }
  | .space => return some { m with cursor := c }
  | .newline => return some { m with mode := .body name ⟨guards, []⟩ false [], cursor := c }
  | .comment => return some { m with mode := .headerComment name guards, cursor := c }
  | .eof => throw (.unexpectedEnd name)
  | _ => throw (.strayInHeader t.text name)

/-- A step in the comment that ends a header. -/
def stepHeaderComment (m : Machine) (name : Text) (guards : List Text) :
    Except ParseError (Option Machine) := do
  let (t, c) ← read m.cursor
  match t.kind with
  | .newline => return some { m with mode := .body name ⟨guards, []⟩ false [], cursor := c }
  | .eof => throw (.unexpectedEnd name)
  | _ => return some { m with cursor := c }

/-- The command with a line more, unless the line is blank. -/
def addLine (command : Command) (line : Text) : Command :=
  if Text.trimEnd line = [] then command else { command with lines := command.lines ++ [Text.trimEnd line] }

/-- Finish the command, which must have a line to run. -/
def closeCommand (m : Machine) (name : Text) (command : Command) (c : Cursor) :
    Except ParseError (Option Machine) :=
  if command.lines = [] then .error (.nothingToRun name)
  else .ok (some ⟨.top, c, m.commands.insert name command, m.first⟩)

/-- A step in a body. A word that is not indented starts the next command. -/
def stepBody (m : Machine) (name : Text) (command : Command) (indented : Bool) (line : Text) :
    Except ParseError (Option Machine) := do
  let (t, c) ← read m.cursor
  match t.kind with
  | .newline => return some { m with mode := .body name (addLine command line) false [], cursor := c }
  | .eof => closeCommand m name (addLine command line) c
  | .tab =>
    if !indented then return some { m with mode := .body name command true line, cursor := c }
    else if line = [] then
      let (after, c') ← read c
      match after.kind with
      | .newline | .eof | .tab => return some { m with cursor := ← putBack after c' }
      | _ => throw (.doubleIndent name)
    else return some { m with mode := .body name command indented (line ++ t.text), cursor := c }
  | .comment => return some { m with cursor := c }
  | .text | .inventory =>
    if indented then return some { m with mode := .body name command indented (line ++ t.text), cursor := c }
    else closeCommand m name command (← putBack t c)
  | .space =>
    if indented then return some { m with mode := .body name command indented (line ++ t.text), cursor := c }
    else
      let (after, c') ← read c
      match after.kind with
      | .newline | .eof | .comment => return some { m with cursor := ← putBack after c' }
      | _ => throw (.spaceIndent name)
  | .error => throw .stuck

/-- One step of the machine, none once the text is used up between commands. -/
def step (m : Machine) : Except ParseError (Option Machine) :=
  match m.mode with
  | .top => stepTop m
  | .topComment => stepTopComment m
  | .header name guards => stepHeader m name guards
  | .headerComment name guards => stepHeaderComment m name guards
  | .body name command indented line => stepBody m name command indented line

/-! ### Halting -/

/-- The modes that may be left without using up a token. -/
def Mode.rank : Mode → Nat
  | .topComment => 1
  | .body .. => 1
  | _ => 0

/-- What every step makes smaller. -/
def weight (m : Machine) : Nat := 2 * m.cursor.left + Mode.rank m.mode

theorem left_of_read {c c' : Cursor} {t : Token} (h : read c = .ok (t, c')) :
    c'.left ≤ c.left ∧ (t.kind ≠ .eof → c'.left + 1 ≤ c.left) := by
  have hr : c.read = (t, c') := by
    unfold read at h
    split at h
    next t₁ c₁ he =>
    split at h
    · cases h
    · cases h; exact he
  have h₁ := c.left_read_le
  have h₂ := c.left_read_lt
  rw [hr] at h₁ h₂
  exact ⟨h₁, h₂⟩

theorem left_of_putBack {t : Token} {c c' : Cursor} (h : putBack t c = .ok c') :
    c'.left = c.left + Cursor.pendingWeight (some t) := by
  unfold putBack at h
  split at h
  · next hp => cases h; exact Cursor.left_putBack hp
  · cases h

/-- Putting back the token just read leaves no more than before. -/
theorem left_of_read_putBack {c c₁ c₂ : Cursor} {t : Token} (h₁ : read c = .ok (t, c₁))
    (h₂ : putBack t c₁ = .ok c₂) : c₂.left ≤ c.left := by
  have hr := left_of_read h₁
  have hp := left_of_putBack h₂
  by_cases ht : t.kind = .eof
  · simp only [Cursor.pendingWeight, ht, ↓reduceIte] at hp
    omega
  · have := hr.2 ht
    simp only [Cursor.pendingWeight, ht, ↓reduceIte] at hp
    omega

theorem mode_closeCommand {m m' : Machine} {name : Text} {command : Command} {c : Cursor}
    (h : closeCommand m name command c = .ok (some m')) : m'.mode = .top ∧ m'.cursor = c := by
  unfold closeCommand at h
  split at h
  · cases h
  · cases h; exact ⟨rfl, rfl⟩

theorem weight_stepTop_lt {m m' : Machine} (hm : m.mode = .top) (h : stepTop m = .ok (some m')) :
    m'.weight < m.weight := by
  obtain ⟨⟨t, c⟩, hr, h⟩ := bind_eq_ok h
  have hl := (left_of_read hr).2
  dsimp only at h
  split at h
  case h_1 => cases h
  case h_2 hk => cases h; simp only [weight, hm, Mode.rank]; grind
  case h_3 hk => cases h; simp only [weight, hm, Mode.rank]; grind
  case h_4 hk =>
    have hl := hl (by simp [hk])
    obtain ⟨⟨u, c₁⟩, hr₁, h⟩ := bind_eq_ok h
    have hl₁ := (left_of_read hr₁).2
    dsimp only at h
    split at h
    case h_1 | h_2 =>
      obtain ⟨c₂, hp, h⟩ := bind_eq_ok h
      cases h
      have := left_of_read_putBack hr₁ hp
      simp only [weight, hm, Mode.rank]
      omega
    case h_3 hu =>
      cases h
      have := hl₁ (by simp [hu])
      simp only [weight, hm, Mode.rank]
      omega
    case h_4 => cases h
  case h_5 hk =>
    obtain ⟨m₁, ho, h⟩ := bind_eq_ok h
    cases h
    unfold openCommand at ho
    split at ho
    · cases ho
    · cases ho; simp only [weight, hm, Mode.rank]; grind
  case h_6 | h_7 | h_8 => cases h

theorem weight_stepTopComment_lt {m m' : Machine} (hm : m.mode = .topComment)
    (h : stepTopComment m = .ok (some m')) : m'.weight < m.weight := by
  obtain ⟨⟨t, c⟩, hr, h⟩ := bind_eq_ok h
  have hl := left_of_read hr
  dsimp only at h
  split at h
  case h_1 | h_2 => cases h; simp only [weight, hm, Mode.rank]; omega
  case h_3 => cases h; simp only [weight, hm, Mode.rank]; grind

theorem weight_stepHeader_lt {m m' : Machine} {name : Text} {guards : List Text}
    (hm : m.mode = .header name guards) (h : stepHeader m name guards = .ok (some m')) :
    m'.weight < m.weight := by
  obtain ⟨⟨t, c⟩, hr, h⟩ := bind_eq_ok h
  have hl := (left_of_read hr).2
  dsimp only at h
  split at h
  case h_1 hk | h_2 hk | h_3 hk | h_4 hk | h_5 hk =>
    cases h
    have := hl (by simp [hk])
    simp only [weight, hm, Mode.rank]
    omega
  case h_6 | h_7 => cases h

theorem weight_stepHeaderComment_lt {m m' : Machine} {name : Text} {guards : List Text}
    (hm : m.mode = .headerComment name guards) (h : stepHeaderComment m name guards = .ok (some m')) :
    m'.weight < m.weight := by
  obtain ⟨⟨t, c⟩, hr, h⟩ := bind_eq_ok h
  have hl := (left_of_read hr).2
  dsimp only at h
  split at h
  case h_1 hk => cases h; simp only [weight, hm, Mode.rank]; grind
  case h_2 => cases h
  case h_3 => cases h; simp only [weight, hm, Mode.rank]; grind

theorem weight_closeCommand_lt {m m' : Machine} {name : Text} {command : Command} {c : Cursor}
    (h : closeCommand m name command c = .ok (some m')) (hm : Mode.rank m.mode = 1)
    (hc : c.left ≤ m.cursor.left) : m'.weight < m.weight := by
  unfold closeCommand at h
  split at h
  · cases h
  · cases h
    change 2 * c.left + 0 < 2 * m.cursor.left + Mode.rank m.mode
    omega

theorem weight_stepBody_lt {m m' : Machine} {name : Text} {command : Command} {indented : Bool} {line : Text}
    (hm : m.mode = .body name command indented line)
    (h : stepBody m name command indented line = .ok (some m')) : m'.weight < m.weight := by
  obtain ⟨⟨t, c⟩, hr, h⟩ := bind_eq_ok h
  have hl := left_of_read hr
  have peek {k : TokenKind} (hk : t.kind = k) (hne : k ≠ .eof) {c₁ c₂ : Cursor} {u : Token}
      (hr₁ : read c = .ok (u, c₁)) (hp : putBack u c₁ = .ok c₂) : c₂.left < m.cursor.left := by
    have := left_of_read_putBack hr₁ hp
    have := hl.2 (hk ▸ hne)
    omega
  dsimp only at h
  split at h
  case h_1 hk => cases h; simp only [weight, hm, Mode.rank]; grind
  case h_2 hk => exact weight_closeCommand_lt h (by rw [hm]; rfl) hl.1
  case h_3 hk =>
    split at h
    · cases h; simp only [weight, hm, Mode.rank]; grind
    · split at h
      · obtain ⟨⟨u, c₁⟩, hr₁, h⟩ := bind_eq_ok h
        dsimp only at h
        split at h
        case h_1 | h_2 | h_3 =>
          obtain ⟨c₂, hp, h⟩ := bind_eq_ok h
          cases h
          have := peek hk (by simp) hr₁ hp
          simp only [weight, hm, Mode.rank]
          omega
        case h_4 => cases h
      · cases h; simp only [weight, hm, Mode.rank]; grind
  case h_4 hk => cases h; simp only [weight, hm, Mode.rank]; grind
  case h_5 hk | h_6 hk =>
    split at h
    · cases h; simp only [weight, hm, Mode.rank]; grind
    · obtain ⟨c₁, hp, h⟩ := bind_eq_ok h
      exact weight_closeCommand_lt h (by rw [hm]; rfl) (left_of_read_putBack hr hp)
  case h_7 hk =>
    split at h
    · cases h; simp only [weight, hm, Mode.rank]; grind
    · obtain ⟨⟨u, c₁⟩, hr₁, h⟩ := bind_eq_ok h
      dsimp only at h
      split at h
      case h_1 | h_2 | h_3 =>
        obtain ⟨c₂, hp, h⟩ := bind_eq_ok h
        cases h
        have := peek hk (by simp) hr₁ hp
        simp only [weight, hm, Mode.rank]
        omega
      case h_4 => cases h
  case h_8 => cases h

theorem weight_step_lt {m m' : Machine} (h : step m = .ok (some m')) : m'.weight < m.weight := by
  unfold step at h
  split at h
  case h_1 hm => exact weight_stepTop_lt hm h
  case h_2 hm => exact weight_stepTopComment_lt hm h
  case h_3 hm => exact weight_stepHeader_lt hm h
  case h_4 hm => exact weight_stepHeaderComment_lt hm h
  case h_5 hm => exact weight_stepBody_lt hm h

/-- Let the machine walk to the end of the text. -/
def run (m : Machine) : Except ParseError Machine :=
  match h : step m with
  | .error e => .error e
  | .ok none => .ok m
  | .ok (some m') =>
    have := weight_step_lt h
    run m'
  termination_by m.weight

end Machine

/-! ### A whole Upfile -/

/-- What is wrong with the first of the guards that is not the name of another command. -/
def guardFault (commands : Dict Command) (name : Text) : List Text → Option ParseError
  | [] => none
  | g :: gs =>
    if g = name then some (.selfReference name)
    else if commands.contains g then guardFault commands name gs
    else some (.undefinedGuard name g)

/-- What is wrong with the guards of the first command, in the order of names, that has bad ones. -/
def tableFault (commands : Dict Command) : Option ParseError :=
  commands.entries.findSome? fun e => guardFault commands e.1 e.2.guards

/-- The Upfile of the commands read, if there are any and all guards are good. -/
def ofMachine (m : Machine) : Except ParseError Upfile :=
  match m.first with
  | none => .error .noCommands
  | some first => match tableFault m.commands with
    | some e => .error e
    | none => .ok ⟨m.commands, first⟩

/-- The Upfile that a text declares. -/
def parse (t : Text) : Except ParseError Upfile := (Machine.ofText t).run >>= ofMachine

end Rollout.Upfile
