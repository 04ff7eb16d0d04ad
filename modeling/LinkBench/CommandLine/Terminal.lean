/-!
What a terminal shows of a text. Control sequences are instructions to the terminal and show nothing;
they begin with an escape character and may be cut short, in which case they take in what follows up
to the end that they wait for. Text without control characters is shown as it is
(`visible_eq_self`).
-/

namespace LinkBench.CommandLine.Terminal

/-- How far a terminal is in a control sequence. -/
inductive State
  | ground
  | escape
  | escapeIntermediate
  | controlEntry
  | controlParameters
  | controlIntermediate
  | controlIgnored
  | deviceEntry
  | deviceParameters
  | deviceIntermediate
  | deviceText
  /-- In the text of a system command, which a bell ends. -/
  | systemText
  deriving DecidableEq, Repr

/-- The control characters that move to another place of the text. -/
def isBlankControl (c : Char) : Bool :=
  c == '\t' || c == '\n' || c == '\x0c' || c == '\r'

def isControl (c : Char) : Bool := c < ' ' || c == '\x7f'

def within (first last c : Char) : Bool := first ≤ c && c ≤ last

/-- Where an escape sequence leads with its first character. -/
def afterEscape (c : Char) : State :=
  if within ' ' '/' c then .escapeIntermediate
  else if c = '[' then .controlEntry
  else if c = ']' then .systemText
  else if c = 'P' then .deviceEntry
  else if c = 'X' ∨ c = '^' ∨ c = '_' then .deviceText
  else .ground

/-- Where a control sequence leads with a character that is no control character. A parameter may not
follow an intermediate character, nor may a private mark follow a parameter. -/
def inSequence (entry : Bool) (parameters intermediate ignored final : State) (c : Char) : State :=
  if within ' ' '/' c then intermediate
  else if within '0' ';' c then parameters
  else if within '<' '?' c then (if entry then parameters else ignored)
  else final

/-- Takes in a visible character inside of a sequence. -/
def advance (s : State) (c : Char) : State :=
  match s with
  | .ground => .ground
  | .escape => afterEscape c
  | .escapeIntermediate => if within ' ' '/' c then .escapeIntermediate else .ground
  | .controlEntry =>
    inSequence true .controlParameters .controlIntermediate .controlIgnored .ground c
  | .controlParameters =>
    inSequence false .controlParameters .controlIntermediate .controlIgnored .ground c
  | .controlIntermediate =>
    inSequence false .controlIgnored .controlIntermediate .controlIgnored .ground c
  | .controlIgnored => if within ' ' '?' c then .controlIgnored else .ground
  | .deviceEntry => inSequence true .deviceParameters .deviceIntermediate .deviceText .deviceText c
  | .deviceParameters =>
    inSequence false .deviceParameters .deviceIntermediate .deviceText .deviceText c
  | .deviceIntermediate =>
    inSequence false .deviceText .deviceIntermediate .deviceText .deviceText c
  | .deviceText => .deviceText
  | .systemText => .systemText

/-- States in which control characters still do what they do outside of a sequence. -/
def isExecuting : State → Bool
  | .ground | .escape | .escapeIntermediate | .controlEntry | .controlParameters
  | .controlIntermediate | .controlIgnored => true
  | .deviceEntry | .deviceParameters | .deviceIntermediate | .deviceText | .systemText => false

/-- Whether the bytes of a character hold the one that ends the text of a device command. A terminal
reads bytes there, and does not care that the byte is part of a character. -/
def holdsTerminator (c : Char) : Bool :=
  (String.utf8EncodeChar c).contains 0x9c

/-- Takes in a character and says whether it is shown. White space that is shown inside of a sequence
ends the sequence. -/
def step (s : State) (c : Char) : State × Bool :=
  if c = '\x1b' then (.escape, false)
  else if c = '\x18' ∨ c = '\x1a' then (.ground, false)
  else if c = '\x07' ∧ s = .systemText then (.ground, false)
  else if isControl c then
    if isBlankControl c && isExecuting s then (.ground, true) else (s, false)
  else if '\x7f' < c then
    if s = .deviceText ∧ holdsTerminator c then (.ground, false) else (s, s = .ground)
  else if s = .ground then (.ground, true)
  else (advance s c, false)

/-- What is shown of a text that begins in a state. -/
def visibleFrom (s : State) : List Char → List Char
  | [] => []
  | c :: cs =>
    let (next, shown) := step s c
    if shown then c :: visibleFrom next cs else visibleFrom next cs

def visible (text : String) : String :=
  String.ofList (visibleFrom .ground text.toList)

/-- The sequence that ends a highlighted piece of text. -/
def reset : String := "\x1b[0m"

/-- A highlighted piece of text; what it leaves unfinished ends with it. -/
def highlighted (text : String) : String := text ++ reset

theorem step_ground_of_not_isControl {c : Char} (h : isControl c = false) :
    step .ground c = (.ground, true) := by
  have hescape : c ≠ '\x1b' := fun heq => by simp [heq, isControl] at h
  have hcancel : ¬ (c = '\x18' ∨ c = '\x1a') := fun heq => by
    rcases heq with heq | heq <;> simp [heq, isControl] at h
  simp [step, hescape, hcancel, h]

theorem visibleFrom_ground {cs : List Char} (h : ∀ c ∈ cs, isControl c = false) :
    visibleFrom .ground cs = cs := by
  induction cs with
  | nil => rfl
  | cons c cs ih =>
    rw [visibleFrom, step_ground_of_not_isControl (h c List.mem_cons_self)]
    simp [ih fun c hc => h c (List.mem_cons_of_mem _ hc)]

theorem visible_eq_self {text : String} (h : ∀ c ∈ text.toList, isControl c = false) :
    visible text = text := by
  rw [visible, visibleFrom_ground h, String.ofList_toList]

end LinkBench.CommandLine.Terminal
