import LoadHarness.Failure

/-!
# Logging levels

A logging level is a number; larger numbers let fewer messages through.  A
level may be given by number, or by name in any case: `CRITICAL` and `FATAL`
(50), `ERROR` (40), `WARN` and `WARNING` (30), `INFO` (20), `DEBUG` (10) and
`NOTSET` (0); an unknown name means `INFO`.  The HTTP client's own messages
are never let through below `WARNING`.
-/

namespace LoadHarness

namespace Level

/-- The named levels. -/
def named : List (String × Int) :=
  [("CRITICAL", 50), ("FATAL", 50), ("ERROR", 40), ("WARN", 30), ("WARNING", 30),
    ("INFO", 20), ("DEBUG", 10), ("NOTSET", 0)]

/-- The capital form of a character as far as it is written in ASCII letters:
ASCII letters are capitalized, and the few other letters whose capital form is
ASCII (dotless i, long s, sharp s and the Latin ligatures) are expanded. -/
def capital (c : Char) : List Char :=
  match c.toNat with
  | 0x131 => ['I']
  | 0x17F => ['S']
  | 0xDF => ['S', 'S']
  | 0xFB00 => ['F', 'F']
  | 0xFB01 => ['F', 'I']
  | 0xFB02 => ['F', 'L']
  | 0xFB03 => ['F', 'F', 'I']
  | 0xFB04 => ['F', 'F', 'L']
  | 0xFB05 => ['S', 'T']
  | 0xFB06 => ['S', 'T']
  | _ => [c.toUpper]

/-- A name in capitals, as far as its capitals are ASCII. -/
def capitalize (name : String) : String :=
  String.ofList (name.toList.flatMap capital)

/-- The level a name stands for: `INFO` when the name is unknown. -/
def ofName (name : String) : Int :=
  ((named.find? fun entry => entry.1 == capitalize name).map Prod.snd).getD 20

/-- The level set on the root logger: a number as given (a truth value
standing for 0 or 1), a name looked up; anything else is refused. -/
def root (level : Value) : Except Failure Value :=
  match level with
  | .int number => .ok (.int number)
  | .bool truth => .ok (.bool truth)
  | .str name => .ok (.int (ofName name))
  | other => .error (.levelType other)

/-- The level of the HTTP client's logger, given the root level: the root
level, but at least `WARNING`. -/
def client (level : Value) : Value :=
  match level with
  | .int number => .int (max number 30)
  | _ => .int 30

end Level

end LoadHarness
