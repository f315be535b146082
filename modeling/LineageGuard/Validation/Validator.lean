import LineageGuard.Domain.Migration
import LineageGuard.Library.SqlMeaning
import Mathlib.Tactic

/-
This file translates the checks of the generated dbt artifacts and SQL programs.
-/

namespace LineageGuard.Validation

open Words Ecma

inductive ValidationErrorCode
  | invalidSandboxRoot | invalidPath | symlink | duplicateTarget | wrongBaseSha | oversize
  | nonUtf8 | artifactConflict | patchInvalid | commandFailed | commandTimeout | outputLimit
  | missingTool | attestationInvalid | cleanupFailed
  deriving DecidableEq

structure ValidationError where
  code : ValidationErrorCode
  diagnostic : String
  deriving DecidableEq

section Templates

/-- A call stands between two braces on each side, with white space around its parts. -/
def templateCall (blank : Char → Bool) (name : String) (arguments : List Pattern) : Pattern :=
  sequence (exactly "\x7b\x7b" :: behind blank (exactly name) ::
    (arguments ++ [behind blank (exactly ")"), behind blank (exactly "\x7d\x7d")]))

def refCall (blank : Char → Bool) (quote : Pattern) : Pattern :=
  templateCall blank "ref("
    [behind blank quote, firstOf [exactly "orders", exactly "stg_orders"], quote]

def sourceCall (blank : Char → Bool) (first second : Pattern) : Pattern :=
  templateCall blank "source("
    [behind blank first, exactly "commerce", first, behind blank (exactly ","), behind blank second,
      exactly "orders", second]

def anyQuote : Pattern := firstOf [exactly "'", exactly "\x22"]

/-- The two replacements find these expressions. -/
def allowedRef : Pattern := refCall isSpace anyQuote

def allowedSource : Pattern := sourceCall isSpace anyQuote anyQuote

def withoutAllowedReferences (content : List Char) : List Char :=
  replaceAll allowedSource [] (replaceAll allowedRef [] content)

/-- A delimiter of a template opens or closes. -/
def hasDelimiter : List Char → Bool
  | first :: second :: rest =>
      (first == '{' && ['{', '%', '#'].contains second) ||
        (['}', '%', '#'].contains first && second == '}') || hasDelimiter (second :: rest)
  | _ => false

def isWord (char : Char) : Bool := char.isAlphanum || char == '_'

/-- A word begins or ends between the two characters. -/
def boundary (before after : Option Char) : Bool := before.any isWord != after.any isWord

def forbiddenWords : List Pattern :=
  [caseless "run_query", caseless "statement",
    sequence [caseless "adapter", behind isSpace (exactly "."),
      behind isSpace (firstOf [caseless "execute", caseless "run_sql"])],
    sequence [caseless "modules", behind isSpace (exactly ".")], caseless "load_result"]

/-- The match ends at the boundary of a word. -/
def matchesWord (text : List Char) (pattern : Pattern) : Bool :=
  (pattern text).any fun after =>
    boundary (text.take (text.length - after.length)).getLast? after.head?

def forbiddenAt (before : Option Char) (text : List Char) : Bool :=
  (boundary before text.head? && forbiddenWords.any (matchesWord text)) ||
    matchesWord text (sequence [exactly "\x7b%", perhaps (exactly "-"), behind isSpace (caseless "do")])

/-- The search for `forbiddenDbtJinja` knows the character before each place. -/
def forbiddenFrom : Option Char → List Char → Bool
  | before, [] => forbiddenAt before []
  | before, char :: rest => forbiddenAt before (char :: rest) || forbiddenFrom (some char) rest

def ArtifactKind.isDbt : Domain.ArtifactKind → Bool
  | .dbtModel _ | .dbtTest => true
  | _ => false

def assertSafeDbtProject (candidate : Domain.MigrationCandidate) : Except ValidationError Unit :=
  candidate.artifacts.forM fun artifact => do
    if ArtifactKind.isDbt artifact.kind then
      if forbiddenFrom none artifact.content.toList ∨
          hasDelimiter (withoutAllowedReferences artifact.content.toList) then
        throw ⟨.commandFailed, "dbt artifact contains non-allowlisted Jinja"⟩

end Templates

inductive GeneratedSqlProgram
  | expandMigration
  | rollback
  deriving DecidableEq

section Programs

def canonicalExpandMigrationHead : List Char :=
  "alter table commerce.orders add column buyer_id uuid; update commerce.orders set ".toList ++
    "buyer_id = customer_id; create function commerce.sync_order_customer_buyer() ".toList ++
    "returns trigger language plpgsql as ".toList

def canonicalExpandMigrationBody : List Char :=
  " begin if tg_op = 'insert' then if new.buyer_id is null and new.customer_id is not ".toList ++
    "null then new.buyer_id := new.customer_id; elsif new.customer_id is null and ".toList ++
    "new.buyer_id is not null then new.customer_id := new.buyer_id; elsif ".toList ++
    "new.customer_id is null and new.buyer_id is null then raise exception 'at least one ".toList ++
    "identifier must be provided'; elsif new.customer_id is distinct from new.buyer_id ".toList ++
    "then raise exception 'customer_id and buyer_id must match during compatibility ".toList ++
    "window'; end if; elsif tg_op = 'update' then if new.customer_id is distinct from ".toList ++
    "old.customer_id and new.buyer_id is not distinct from old.buyer_id then ".toList ++
    "new.buyer_id := new.customer_id; elsif new.buyer_id is distinct from old.buyer_id ".toList ++
    "and new.customer_id is not distinct from old.customer_id then new.customer_id := ".toList ++
    "new.buyer_id; elsif new.customer_id is distinct from old.customer_id and ".toList ++
    "new.buyer_id is distinct from old.buyer_id then if new.customer_id is distinct from ".toList ++
    "new.buyer_id then raise exception 'customer_id and buyer_id must match during ".toList ++
    "compatibility window'; end if; end if; end if; return new; end ".toList

def canonicalExpandMigrationTail : List Char :=
  "; create trigger orders_customer_buyer_compat before insert or update on ".toList ++
    "commerce.orders for each row execute function commerce.sync_order_customer_buyer(); ".toList ++
    "alter table commerce.orders alter column buyer_id set not null;".toList

def canonicalRollbackHead : List Char :=
  "drop trigger orders_customer_buyer_compat on commerce.orders; drop function ".toList ++
    "commerce.sync_order_customer_buyer(); alter table commerce.orders drop column ".toList ++
    "buyer_id cascade; do ".toList

def canonicalRollbackBody : List Char :=
  " begin if not exists (select 1 from information_schema.columns where table_schema = ".toList ++
    "'commerce' and table_name = 'orders' and column_name = 'customer_id') then raise ".toList ++
    "exception 'rollback removed customer_id'; end if; if exists (select 1 from ".toList ++
    "information_schema.columns where table_schema = 'commerce' and table_name = ".toList ++
    "'orders' and column_name = 'buyer_id') then raise exception 'rollback left buyer_id ".toList ++
    "in place'; end if; end ".toList

def canonicalRollbackTail : List Char :=
  ";".toList

/-- The only expand program the validator will accept. -/
def canonicalExpandMigrationSql : List Char :=
  canonicalExpandMigrationHead ++ SqlTokens.dollarQuoted canonicalExpandMigrationBody ++
    canonicalExpandMigrationTail

/-- The only rollback program the validator will accept. -/
def canonicalRollbackSql : List Char :=
  canonicalRollbackHead ++ SqlTokens.dollarQuoted canonicalRollbackBody ++ canonicalRollbackTail

end Programs

section Comparison

/-- The language writes a text in lower case by the default mapping of Unicode. -/
structure LowerCase where
  lower : List Char → List Char
  ascii : ∀ text : List Char, text.all SqlTokens.isAscii = true →
    lower text = text.map SqlTokens.fold

def isLineEnd (char : Char) : Bool :=
  char == '\n' || char == '\r' || char == '\u2028' || char == '\u2029'

/-- A backslash stands behind white space at the start of a line. -/
def hasCommand : Bool → List Char → Bool
  | _, [] => false
  | starts, char :: rest =>
      (starts && ((char :: rest).dropWhile isSpace).head? == some '\\') ||
        hasCommand (isLineEnd char) rest

/-- The grammar has neither comments nor commands of the client. -/
def isOutsideGrammar (sql : List Char) : Bool :=
  decide (['-', '-'] <:+: sql) || decide (['/', '*'] <:+: sql) || decide (['*', '/'] <:+: sql) ||
    hasCommand true sql

def byteLength (text : List Char) : ℕ := (text.map Char.utf8Size).sum

/-- A semicolon matches with the white space around it. -/
def semicolon : Pattern := fun text =>
  match text.dropWhile isSpace with
  | ';' :: rest => some (rest.dropWhile isSpace)
  | _ => none

def outsideGrammar : ValidationError :=
  ⟨.commandFailed, "generated SQL is outside the canonical grammar"⟩

variable (lowerCase : LowerCase)

/-- The white space of the text is brought into one form. -/
def collapsed (sql : List Char) : List Char :=
  trim isSpace (replaceAll semicolon [';', ' '] (replaceAll spaces [' '] (trim isSpace sql)))

def canonicalSqlText (sql : List Char) : Except ValidationError (List Char) :=
  if 100000 < byteLength sql ∨ sql.contains '\x00' ∨ isOutsideGrammar sql then
    .error outsideGrammar
  else .ok (lowerCase.lower (collapsed sql))

/-- This is the program of the candidate. -/
def canonicalSql : GeneratedSqlProgram → List Char
  | .expandMigration => canonicalExpandMigrationSql
  | .rollback => canonicalRollbackSql

def assertCanonicalGeneratedSql (sql : List Char) (program : GeneratedSqlProgram) :
    Except ValidationError Unit := do
  let found ← canonicalSqlText lowerCase sql
  let expected ← canonicalSqlText lowerCase (canonicalSql program)
  if found ≠ expected then throw outsideGrammar

end Comparison

end LineageGuard.Validation
