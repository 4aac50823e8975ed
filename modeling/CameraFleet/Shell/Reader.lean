import CameraFleet.Shell.Reading

/-!
# Reading scripts

A script is read one complete command at a time, so that a mistake further on
does not keep the commands before it from running.
-/

namespace CameraFleet
namespace Shell
namespace Reading

mutual

/-- Read the parts of a word up to the end of its context. -/
def readParts : Nat -> Context -> Reading Word
  | 0, _ => fail "Unterminated quoted string"
  | fuel + 1, context => do
      match ← peek with
      | none =>
          match context with
          | .word | .document | .regex _ => pure []
          | .braces | .pattern | .key _ | .group | .term .. => unclosed "Missing '\x7d'"
          | .expression _ => unclosed "Missing '))'"
          | .quotes | .quotedBraces _ => unclosed "Unterminated quoted string"
      | some c =>
          if c == '\\' then
            skip
            match (← get).rest with
            | [] => pure [.text "\\" true]
            | d :: _ =>
                noteQuoted
                skip
                let rest ← readParts fuel context
                if protects context d then pure (addChar d true rest)
                else pure (addChar '\\' true (addChar d true rest))
          else if c == '$' then
            skip
            if !context.isQuoted && (← get).language == .extended && (← peek) == some '"' then
              readParts fuel context
            else
              let part ← readDollar fuel context.isQuoted
              pure (part :: (← readParts fuel context))
          else if c == '`' then
            skip
            let part ← readBackQuoted fuel context.isQuoted
            pure (part :: (← readParts fuel context))
          else readCharacter fuel context c
termination_by structural fuel => fuel

/-- Read a character whose meaning depends on the context, and the parts after it. -/
def readCharacter : Nat -> Context -> Char -> Reading Word
  | 0, _, _ => fail "Unterminated quoted string"
  | fuel + 1, context, c => do
      let plain : Reading Word := do
        skip
        let run ← takeRun context
        let text : Part := .text (String.ofList (c :: run)) context.isQuoted
        pure (text :: (← readParts fuel context))
      let alone (next : Context) : Reading Word := do
        skip
        pure (addChar c next.isQuoted (← readParts fuel next))
      match context with
      | .word =>
          if !endsWord c then readUnquoted fuel context c
          else if (c == '<' || c == '>') && (← isExtended) &&
              (← get).rest[1]? == some '(' then
            skip
            let part ← readChannel fuel (c == '>')
            pure (part :: (← readParts fuel context))
          else pure []
      | .braces =>
          if c == '\x7d' then
            skip
            pure []
          else readUnquoted fuel context c
      | .quotes =>
          if c == '"' then
            skip
            pure []
          else plain
      | .quotedBraces inner =>
          if c == '"' then
            skip
            noteQuoted
            readParts fuel (.quotedBraces !inner)
          else if c == '\x7d' && !inner then
            skip
            pure []
          else plain
      | .document => plain
      | .expression depth =>
          if c == '(' then alone (.expression (depth + 1))
          else if c == ')' then
            match depth with
            | depth + 1 => alone (.expression depth)
            | 0 => do
                skip
                if ← takes ')' then pure []
                else if ← isExtended then fail "Missing '))'"
                else pure (addChar c true (← readParts fuel context))
          else if c == '"' && (← isExtended) then
            skip
            readParts fuel context
          else plain
      | .term enders depth =>
          if depth = 0 && enders.contains c then pure []
          else if c == '(' then alone (.term enders (depth + 1))
          else if c == ')' then alone (.term enders (depth - 1))
          else if c == '"' then
            skip
            readParts fuel context
          else plain
      | .pattern =>
          if c == '/' || c == '\x7d' then pure [] else readUnquoted fuel context c
      | .key depth =>
          if c == '[' then alone (.key (depth + 1))
          else if c == ']' then
            match depth with
            | depth + 1 => alone (.key depth)
            | 0 => do
                skip
                pure []
          else readUnquoted fuel context c
      | .group =>
          if c == ')' then
            skip
            pure []
          else readUnquoted fuel context c
      | .regex depth =>
          if c == '(' then alone (.regex (depth + 1))
          else if c == ')' && 0 < depth then alone (.regex (depth - 1))
          else if depth = 0 && endsWord c && c != '|' then pure []
          else readUnquoted fuel context c
termination_by structural fuel => fuel

/-- Read a character outside of quotes, which may open quotes or a group of patterns. -/
def readUnquoted : Nat -> Context -> Char -> Reading Word
  | 0, _, _ => fail "Unterminated quoted string"
  | fuel + 1, context, c => do
      if c == '\'' then
        let text ← enclosed c do
          skip
          readLiteral
        pure (.text text true :: (← readParts fuel context))
      else if c == '"' then
        let quoted ← enclosed c do
          skip
          noteQuoted
          readParts fuel .quotes
        pure (.text "" true :: quoted ++ (← readParts fuel context))
      else
        skip
        if (← get).groups && startsGroup c && (← get).rest.head? == some '(' then
          let group ← enclosed ')' do
            skip
            readParts fuel .group
          let start : Part := .text (String.ofList [c, '(']) false
          pure (start :: group ++ addChar ')' false (← readParts fuel context))
        else
          let text : Part := .text (String.ofList (c :: (← takeRun context))) false
          pure (text :: (← readParts fuel context))
termination_by structural fuel => fuel

/-- Read a script up to a closing parenthesis. -/
def readInner : Nat -> Reading Script
  | 0 => fail "Unterminated quoted string"
  | fuel + 1 => do
      let outer ← get
      set { outer with announced := [], groups := false }
      let script ← within { mark := ')', line := outer.line, isScript := true } do
        let script ← readList fuel 2
        let closing ← readToken fuel false .words
        if closing != .operator ")" then unexpected (some (.operator ")"))
        pure script
      modify fun reader =>
        { reader with
          announced := outer.announced, quoted := outer.quoted, before := outer.before
          groups := outer.groups }
      pure (script.getD .nothing)
termination_by structural fuel => fuel

/-- Read a command that is used as a file, after the sign that says how. -/
def readChannel : Nat -> Bool -> Reading Part
  | 0, _ => fail "Unterminated quoted string"
  | fuel + 1, reads => do
      skip
      pure (.output (.channel reads (← readInner fuel)) true)
termination_by structural fuel => fuel

/-- Read what follows a dollar sign. -/
def readDollar : Nat -> Bool -> Reading Part
  | 0, _ => fail "Unterminated quoted string"
  | fuel + 1, quoted => do
      let isExtended ← isExtended
      match ← peek with
      | some '(' => do
          skip
          if ← sees "(" then readValue fuel quoted
          else pure (.output (← readInner fuel) quoted)
      | some '\x7b' => do
          if isExtended then
            enclosed '\x7d' do
              skip
              readBraced fuel quoted
          else
            skip
            let (name, use) ← readNameInBraces
            if use == .plain || use == .length then
              skip
              pure (.parameter name use [] quoted)
            else
              let word ← readParts fuel (wordContext use quoted)
              pure (.parameter name use (mergeText word) quoted)
      | some '\'' =>
          if isExtended && !quoted then do
            let text ← enclosed '\'' do
              skip
              readEscaped
            pure (.text text true)
          else pure (.text "$" quoted)
      | some '[' =>
          if isExtended then do
            let expression ← enclosed ']' do
              skip
              readParts fuel (.key 0)
            pure (.value (mergeText expression) quoted)
          else pure (.text "$" quoted)
      | some c =>
          if startsName c then
            let name ← takeName isInName longName
            pure (.parameter (String.ofList name) .plain [] quoted)
          else if isSpecialName c then
            skip
            pure (.parameter (String.singleton c) .plain [] quoted)
          else pure (.text "$" quoted)
      | none => pure (.text "$" quoted)
termination_by structural fuel => fuel

/-- Read an expression in parentheses, of which the first has been read. -/
def readValue : Nat -> Bool -> Reading Part
  | 0, _ => fail "Unterminated quoted string"
  | fuel + 1, quoted => do
      let expression : Reading Word :=
        enclosed ')' do
          skip
          readParts fuel (.expression 0)
      if ← isExtended then
        let outer ← get
        match ← attempt expression with
        | some word => pure (.value (mergeText word) quoted)
        | none => do
            let _ ← enclosed ')' (readParts fuel (.term [')'] 0))
            let inner ← get
            let text := outer.rest.take (outer.rest.length - inner.rest.length)
            skip
            readWithin fuel outer (← get) text quoted
      else pure (.value (mergeText (← expression)) quoted)
termination_by structural fuel => fuel

/-- Read which members of a parameter are meant. -/
def readSelection : Nat -> Reading Selection
  | 0 => fail "Unterminated quoted string"
  | fuel + 1 => do
      if ← sees "[@]" then
        skipMany 3
        pure (.every false)
      else if ← sees "[*]" then
        skipMany 3
        pure (.every true)
      else if ← sees "[" then
        let key ← enclosed ']' do
          skip
          readParts fuel (.key 0)
        pure (.key (mergeText key))
      else pure .whole
termination_by structural fuel => fuel

/-- Read the use of a parameter in braces, with the words that belong to it. -/
def readUses : Nat -> Bool -> Reading (Use × List Word)
  | 0, _ => fail "Unterminated quoted string"
  | fuel + 1, quoted => do
      let word (use : Use) : Reading (Use × List Word) := do
        pure (use, [mergeText (← readParts fuel (wordContext use quoted))])
      match ← peek with
      | some '\x7d' => do
          skip
          pure (.plain, [])
      | some '/' => do
          skip
          let which ← takeMatches
          let pattern ← readParts fuel .pattern
          if ← takes '/' then
            let replacement ← readParts fuel .braces
            pure (.replace which, [mergeText pattern, mergeText replacement])
          else
            skip
            pure (.replace which, [mergeText pattern])
      | some '@' => do
          skip
          match (← get).rest with
          | letter :: '\x7d' :: _ => do
              skipMany 2
              pure (if "UuLQEPAaKk".toList.contains letter then .transform letter else .wrong, [])
          | _ => pure (.wrong, [])
      | some c => do
          match casingOf? c with
          | some casing => do
              skip
              let every ← takes c
              word (.recase casing every)
          | none => do
              let start ← get
              let use ← readUse
              if use != .wrong then word use
              else if c == ':' then
                set start
                skip
                let place ← readParts fuel (.term [':', '\x7d'] 0)
                if ← takes ':' then
                  let count ← readParts fuel (.term ['\x7d'] 0)
                  skip
                  pure (.slice, [mergeText place, mergeText count])
                else
                  skip
                  pure (.slice, [mergeText place])
              else pure (.wrong, [])
      | none => unclosed ""
termination_by structural fuel => fuel

/-- Read what stands in braces after a dollar sign, in the extended language. -/
def readBraced : Nat -> Bool -> Reading Part
  | 0, _ => fail "Unterminated quoted string"
  | fuel + 1, quoted => do
      let start ← get
      let wrong : Reading Part := do
        set start
        let _ ← readParts fuel (wordContext .wrong quoted)
        let after ← get
        let inner := start.rest.take (start.rest.length - after.rest.length)
        let text := String.ofList ('$' :: '\x7b' :: inner)
        pure (.member "" .whole false .wrong [[.text text true]] quoted)
      let used (name : List Char) (indirect : Bool) : Reading Part := do
        let isNamed := (name.head?.map startsName).getD false
        let selection ← if isNamed then readSelection fuel else pure .whole
        let (use, words) ← readUses fuel quoted
        if use == .wrong then wrong
        else pure (usedPart (String.ofList name) selection indirect use words quoted)
      match ← takeBracedStart with
      | .wrong => wrong
      | .value name => used name false
      | .indirect name => do
          let isNamed := (name.head?.map startsName).getD false
          let named := String.ofList name
          if isNamed && ((← sees "*\x7d") || (← sees "@\x7d")) then
            let joined ← sees "*"
            skipMany 2
            pure (.names named joined quoted)
          else if isNamed && ((← sees "[*]\x7d") || (← sees "[@]\x7d")) then
            let joined ← sees "[*"
            skipMany 4
            pure (.keys named joined quoted)
          else used name true
      | .length name => do
          let isNamed := (name.head?.map startsName).getD false
          let selection ← if isNamed then readSelection fuel else pure .whole
          if ← takes '\x7d' then
            pure (usedPart (String.ofList name) selection false .length [] quoted)
          else wrong
termination_by structural fuel => fuel

/-- Read a script that is a text within the script, between the states before and after it. -/
def readWithin : Nat -> Reader -> Reader -> List Char -> Bool -> Reading Part
  | 0, _, _, _, _ => fail "Unterminated quoted string"
  | fuel + 1, outer, later, text, quoted => do
      let isExtended := outer.language == .extended
      let text := if isExtended then endLine text else text
      let line := if isExtended then 1 else outer.line
      set { outer with
        rest := text, whole := text, announced := [], again := false, opened := none, line
        firstLine := line, groups := false }
      let before ← get
      let script ← do
        match (readList fuel 2).run before with
        | .ok (script, after) => do
            set after
            pure (script.getD .nothing)
        | .error error => if isExtended then pure (.faulty error) else throw error
      let inner ← get
      set { later with documents := inner.documents, next := inner.next }
      pure (.output script quoted)
termination_by structural fuel => fuel

/-- Read a script between back quotes. -/
def readBackQuoted : Nat -> Bool -> Reading Part
  | 0, _ => fail "Unterminated quoted string"
  | fuel + 1, quoted => do
      let outer ← get
      match takeBackQuoted quoted outer.rest [] with
      | none => do
          set { outer with
            line := outer.line + Reader.lineCount outer.rest
            opened := some { mark := '\x60', line := outer.line } }
          unclosed "EOF in backquote substitution"
      | some (text, rest) => do
          let taken := outer.rest.take (outer.rest.length - rest.length)
          let line := outer.line + Reader.lineCount taken
          readWithin fuel outer { outer with rest, line } text quoted
termination_by structural fuel => fuel

/-- Meet the texts that have been announced. -/
def readDocuments : Nat -> Reading Unit
  | 0 => pure ()
  | fuel + 1 => do
      let reader ← get
      match reader.announced with
      | [] => pure ()
      | first :: others => do
          let (body, rest, ended) :=
            takeDocument first false (reader.rest.length + 1) reader.rest []
          let line := reader.line + Reader.lineCount
            (reader.rest.take (reader.rest.length - rest.length))
          let warning :=
            s!"warning: here-document at line {first.line} delimited by end-of-file" ++
              s!" (wanted \x60{first.mark}')"
          let after := { reader with
            announced := others, rest, line
            warnings :=
              if ended then reader.warnings else reader.warnings ++ [(line - 1, warning)] }
          if first.literal then
            let word : Word := [.text (String.ofList body) true]
            set { after with documents := (first.number, word) :: after.documents }
          else
            set { reader with rest := body, whole := body, announced := [] }
            let word ← readParts fuel .document
            let inner ← get
            set { after with
              documents := (first.number, mergeText word) :: inner.documents
              next := inner.next }
          readDocuments fuel
termination_by structural fuel => fuel

/-- Read the operator of a redirection. -/
def readOpening : Nat -> Option Nat -> Reading Token
  | _, given => do
      let isExtended ← isExtended
      let file (usual : Nat) (use : FileUse) : Opening := .file (given.getD usual) use
      let opening : Opening ← do
        if ← takes '>' then
          if ← takes '>' then pure (file 1 .append)
          else if ← takes '|' then pure (file 1 .overwrite)
          else if ← takes '&' then pure (.duplicate (given.getD 1) (isExtended && given.isNone))
          else pure (file 1 .output)
        else
          skip
          if ← takes '<' then
            if ← takes '-' then pure (.document (given.getD 0) true)
            else if ← (if isExtended then takes '<' else pure false) then
              pure (.line (given.getD 0))
            else pure (.document (given.getD 0) false)
          else if ← takes '&' then pure (.duplicate (given.getD 0) false)
          else if ← takes '>' then pure (file 0 .both)
          else pure (file 0 .input)
      modify ({ · with opening, token := .redirection })
      pure .redirection

/-- Read the start of an assignment, if there is one. -/
def readDestination : Nat -> Bool -> Reading Part
  | 0, _ => fail "Unterminated quoted string"
  | fuel + 1, inList => do
      let name ← if inList then pure [] else takeName isInName longName
      let start := (name.head?.map startsName).getD false
      if !inList && !start then fail ""
      let key ←
        if ← sees "[" then
          let key ← enclosed ']' do
            skip
            readParts fuel (.key 0)
          pure (some (mergeText key))
        else if inList then fail ""
        else pure none
      let appends ← sees "+"
      if ← takesAssigning then pure (.target (String.ofList name) key appends) else fail ""
termination_by structural fuel => fuel

/-- Read the members of a list up to its closing parenthesis. -/
def readMembers : Nat -> Reading (List Word)
  | 0 => fail "Unterminated quoted string"
  | fuel + 1 => do
      match ← readRaw fuel .words true with
      | .word => do
          let word := (← get).word
          pure (word :: (← readMembers fuel))
      | .newline => readMembers fuel
      | .operator ")" => pure []
      | .finish => unclosed ""
      | _ => unexpected none
termination_by structural fuel => fuel

/-- Read a word; assignments may count, and keys if the word is a member of a list. -/
def readWord : Nat -> Heed -> Bool -> Reading Word
  | 0, _, _ => fail "Unterminated quoted string"
  | fuel + 1, heed, inList => do
      let mayAssign := inList || heed.seesAssignments
      let target ←
        if mayAssign && (← isExtended) then attempt (readDestination fuel inList) else pure none
      match target with
      | none => do pure (mergeText (← readParts fuel .word))
      | some target => do
          if !inList && (← (sees "(")) then
            let line := (← get).line
            let members ← within { mark := ')', line, status := 1 } do
              skip
              readMembers fuel
            pure [target, .list members]
          else pure (target :: mergeText (← readParts fuel .word))
termination_by structural fuel => fuel

/-- Read a token of the script, which may be an assignment or a member of a list. -/
def readRaw : Nat -> Heed -> Bool -> Reading Token
  | 0, _, _ => fail "Unterminated quoted string"
  | fuel + 1, heed, inList => do
      let isExtended ← isExtended
      let operator (text : String) : Reading Token := do
        modify ({ · with token := .operator text })
        pure (.operator text)
      let ifExtended (c : Char) : Reading Bool := if isExtended then takes c else pure false
      let next ← peek
      modify fun reader => { reader with before := reader.rest }
      match next with
      | none => do
          modify ({ · with token := .finish })
          pure .finish
      | some c =>
          if c == ' ' || c == '\t' then
            skip
            readRaw fuel heed inList
          else if c == '#' then
            modify fun reader => { reader with rest := reader.rest.dropWhile (· != '\n') }
            readRaw fuel heed inList
          else if c == '\n' then
            skip
            modify ({ · with token := .newline })
            pure .newline
          else if c == '&' then
            skip
            if ← takes '&' then operator "&&"
            else if ← ifExtended '>' then
              let appends ← takes '>'
              modify ({ · with opening := .outputs appends, token := .redirection })
              pure .redirection
            else operator "&"
          else if c == '|' then
            skip
            if ← takes '|' then operator "||"
            else if ← ifExtended '&' then operator "|&"
            else operator "|"
          else if c == ';' then
            skip
            if ← takes ';' then
              if ← ifExtended '&' then operator ";;&" else operator ";;"
            else if ← ifExtended '&' then operator ";&"
            else operator ";"
          else if c == '(' then
            skip
            operator "("
          else if c == ')' then
            skip
            operator ")"
          else if (c == '<' || c == '>') &&
              !(isExtended && (← get).rest[1]? == some '(') then
            readOpening fuel none
          else
            modify ({ · with quoted := false })
            let word ← readWord fuel heed inList
            let after ← get
            let mostDigits := if isExtended then 9 else 1
            let number? : Option Nat :=
              match word with
              | [.text text false] =>
                  let isNumber := text.length ≤ mostDigits && text.all Char.isDigit
                  if isNumber then text.toNat? else none
              | _ => none
            match number?, after.rest.head? with
            | some number, some '<' => readOpening fuel (some number)
            | some number, some '>' => readOpening fuel (some number)
            | _, _ => do
                set { after with word, token := .word }
                pure .word
termination_by structural fuel => fuel

/-- Read a token; line breaks before it may be skipped, and keywords may count. -/
def readToken : Nat -> Bool -> Heed -> Reading Token
  | 0, _, _ => fail "Unterminated quoted string"
  | fuel + 1, skipsLines, heed => do
      let reader ← get
      let (token, heed) ←
        if reader.again then
          set { reader with again := false }
          pure (reader.token, heed)
        else
          let left := reader.rest.length
          set { reader with underway := reader.underway.filter (·.left < left) }
          let token ← readRaw fuel heed false
          pure (token, if ← leavesWithBlank then heed.withAliases else heed)
      if token == .newline && skipsLines then
        readDocuments fuel
        readToken fuel skipsLines heed
      else if token == .word && !(← get).quoted then
        match bareText? (← get).word with
        | none => pure .word
        | some text => do
            let keywords := Token.keywords (← get).language
            if heed.seesKeywords && keywords.contains text then
              modify ({ · with token := .keyword text })
              pure (.keyword text)
            else if ← if heed.seesAliases then beginAlias text else pure false then
              readToken fuel skipsLines heed
            else pure .word
      else pure token
termination_by structural fuel => fuel

/--
Read a list of commands. In mode 1 it is the rest of a line; else it goes on to
a token that may follow a list, and in mode 2 it may be empty. None if there is
nothing left of the script.
-/
def readList : Nat -> Nat -> Reading (Option Script)
  | 0, _ => fail "Unterminated quoted string"
  | fuel + 1, mode => readMore fuel mode none
termination_by structural fuel => fuel

/-- Read the commands of a list after those that have been read. -/
def readMore : Nat -> Nat -> Option Script -> Reading (Option Script)
  | 0, _, _ => fail "Unterminated quoted string"
  | fuel + 1, mode, sofar => do
      let line := mode == 1 || mode == 3
      let token ← readToken fuel (!line) .all
      match token with
      | .newline => do
          readDocuments fuel
          pure (some (sofar.getD .nothing))
      | .finish => do
          readDocuments fuel
          pushBack
          if sofar.isNone && !line then pure (some .nothing) else pure sofar
      | _ => do
          pushBack
          if mode == 2 && token.endsList then pure (some (sofar.getD .nothing))
          else
            let command ← readChain fuel
            let token ← readToken fuel false .words
            let command :=
              if token == .operator "&" then
                match command with
                | .pipeline commands _ => .pipeline commands true
                | .redirected _ body redirections => .aside body redirections
                | command => .aside command []
              else command
            let all :=
              match sofar with
              | none => command
              | some before => .sequence before command
            match token with
            | .finish => do
                readDocuments fuel
                pushBack
                pure (some all)
            | .newline => do
                pushBack
                readMore fuel (if line then 3 else 2) (some all)
            | .operator "&" | .operator ";" => readMore fuel (if line then 3 else 2) (some all)
            | _ => do
                if line then unexpected none
                pushBack
                pure (some all)
termination_by structural fuel => fuel

/-- Read pipelines that depend on each other. -/
def readChain : Nat -> Reading Script
  | 0 => fail "Unterminated quoted string"
  | fuel + 1 => do
      let first ← readPipeline fuel false .words
      readLinks fuel first
termination_by structural fuel => fuel

/-- Read pipelines that depend on those before. -/
def readLinks : Nat -> Script -> Reading Script
  | 0, _ => fail "Unterminated quoted string"
  | fuel + 1, before => do
      match ← readToken fuel false .words with
      | .operator "&&" => do
          let next ← readPipeline fuel true .all
          readLinks fuel (.both before next)
      | .operator "||" => do
          let next ← readPipeline fuel true .all
          readLinks fuel (.either before next)
      | _ => do
          pushBack
          pure before
termination_by structural fuel => fuel

/-- Read a pipeline. -/
def readPipeline : Nat -> Bool -> Heed -> Reading Script
  | 0, _, _ => fail "Unterminated quoted string"
  | fuel + 1, skipsLines, heed => do
      match ← readToken fuel skipsLines heed with
      | .keyword "time" => readTimed fuel
      | .keyword "!" => do
          if ← isExtended then pure (.negate (← readPipeline fuel false .all))
          else pure (.negate (← readStages fuel false .all))
      | _ => do
          pushBack
          readStages fuel false .words
termination_by structural fuel => fuel

/-- Read a pipeline whose time is told. -/
def readTimed : Nat -> Reading Script
  | 0 => fail "Unterminated quoted string"
  | fuel + 1 => do
      let token ← readToken fuel false .all
      let brief := token == .word && bareText? (← get).word == some "-p"
      let token ← if brief then readToken fuel false .all else pure token
      pushBack
      if [.newline, .operator ";", .operator "&", .finish].contains token then
        pure (.timed brief .nothing)
      else pure (.timed brief (← readPipeline fuel false .all))
termination_by structural fuel => fuel

/-- Read commands of which each reads what the one before it writes, or one command alone. -/
def readStages : Nat -> Bool -> Heed -> Reading Script
  | 0, _, _ => fail "Unterminated quoted string"
  | fuel + 1, skipsLines, heed => do
      match ← readStageList fuel skipsLines heed with
      | [command] => pure command
      | commands => pure (.pipeline commands false)
termination_by structural fuel => fuel

/-- Read the commands of a pipeline. -/
def readStageList : Nat -> Bool -> Heed -> Reading (List Script)
  | 0, _, _ => fail "Unterminated quoted string"
  | fuel + 1, skipsLines, heed => do
      let command ← readCommand fuel skipsLines heed
      match ← readToken fuel false .words with
      | .operator "|" => do pure (command :: (← readStageList fuel true .all))
      | .operator "|&" => do pure (command.withErrors :: (← readStageList fuel true .all))
      | _ => do
          pushBack
          pure [command]
termination_by structural fuel => fuel

/-- Read a token that has to be this one. -/
def demand : Nat -> Token -> Reading Unit
  | 0, _ => fail "Unterminated quoted string"
  | fuel + 1, wanted => do
      if (← readToken fuel false .all) != wanted then unexpected (some wanted)
termination_by structural fuel => fuel

/-- Read a list of commands that is not empty. -/
def readBody : Nat -> Reading Script
  | 0 => fail "Unterminated quoted string"
  | fuel + 1 => do
      pure ((← readList fuel 0).getD .nothing)
termination_by structural fuel => fuel

/-- Read the body of a loop. -/
def readLoopBody : Nat -> Reading Script
  | 0 => fail "Unterminated quoted string"
  | fuel + 1 => do
      let token ← readToken fuel true .all
      if token == .keyword "\x7b" && (← isExtended) then
        let body ← readBody fuel
        demand fuel (.keyword "\x7d")
        pure body
      else
        if token != .keyword "do" then unexpected (some (.keyword "do"))
        let body ← readBody fuel
        demand fuel (.keyword "done")
        pure body
termination_by structural fuel => fuel

/-- Read a loop that depends on a command. -/
def readLoop : Nat -> Bool -> Reading Script
  | 0, _ => fail "Unterminated quoted string"
  | fuel + 1, stops => do
      let test ← readBody fuel
      demand fuel (.keyword "do")
      let body ← readBody fuel
      demand fuel (.keyword "done")
      pure (.loop stops test body)
termination_by structural fuel => fuel

/-- Read a command. -/
def readCommand : Nat -> Bool -> Heed -> Reading Script
  | 0, _, _ => fail "Unterminated quoted string"
  | fuel + 1, skipsLines, heed => do
      let line := (← get).line
      match ← readToken fuel skipsLines heed with
      | .keyword "if" => do
          let script ← readBranches fuel
          demand fuel (.keyword "fi")
          readRedirections fuel line script
      | .keyword "while" => do readRedirections fuel line (← readLoop fuel false)
      | .keyword "until" => do readRedirections fuel line (← readLoop fuel true)
      | .keyword "for" => do readRedirections fuel line (← readEach fuel line false)
      | .keyword "select" => do readRedirections fuel line (← readEach fuel line true)
      | .keyword "case" => do
          if (← readToken fuel false .words) != .word then unexpected (some .word)
          let subject := (← get).word
          if (← readToken fuel true .all) != .keyword "in" then unexpected (some (.keyword "in"))
          let branches ← readCases fuel
          readRedirections fuel line (.select line subject branches)
      | .keyword "function" => do
          if (← readToken fuel false .words) != .word then unexpected none
          match plainText? (← get).word with
          | some name => do
              if (← readToken fuel false .words) == .operator "(" then demand fuel (.operator ")")
              else pushBack
              pure (.define line name (← readCompound fuel))
          | none => unexpected none
      | .keyword "[[" => do
          let proposition ← readDisjunction fuel
          if bareText? (← get).word != some "]]" || (← get).token != .word then
            let found := (← get).tokenText
            failHere
              [s!"syntax error in conditional expression: unexpected token \x60{found}'",
                s!"syntax error near \x60{found}'"]
          readRedirections fuel line (.claim line proposition)
      | .operator "(" => do
          let expression ←
            if ← (do pure ((← isExtended) && (← sees "("))) then
              attemptToEnd do
                enclosed ')' do
                  skip
                  readParts fuel (.expression 0)
            else pure none
          match expression with
          | some expression =>
              readRedirections fuel line (.calculate line (mergeText expression))
          | none => do
              let body ← readBody fuel
              demand fuel (.operator ")")
              readRedirections fuel line (.apart line body [])
      | .keyword "\x7b" => do
          let body ← readBody fuel
          demand fuel (.keyword "\x7d")
          readRedirections fuel line body
      | .word | .redirection => do
          pushBack
          readSimple fuel line [] [] []
      | _ => unexpected none
termination_by structural fuel => fuel

/-- Read the command that a function stands for. -/
def readCompound : Nat -> Reading Script
  | 0 => fail "Unterminated quoted string"
  | fuel + 1 => do
      match ← readToken fuel true .all with
      | .operator "(" => do
          pushBack
          readCommand fuel false .words
      | .keyword text => do
          let starts :=
            ["\x7b", "if", "while", "until", "for", "case", "select", "[["].contains text
          if !starts then unexpected none
          pushBack
          readCommand fuel false .words
      | _ => unexpected none
termination_by structural fuel => fuel

/-- Read propositions of which one must be true, and the token after them. -/
def readDisjunction : Nat -> Reading Proposition
  | 0 => fail "Unterminated quoted string"
  | fuel + 1 => do
      let first ← readConjunction fuel
      if (← get).token == .operator "||" then
        pure (.either first (← readDisjunction fuel))
      else pure first
termination_by structural fuel => fuel

/-- Read propositions that must all be true, and the token after them. -/
def readConjunction : Nat -> Reading Proposition
  | 0 => fail "Unterminated quoted string"
  | fuel + 1 => do
      let first ← readClaim fuel
      if (← get).token == .operator "&&" then
        pure (.both first (← readConjunction fuel))
      else pure first
termination_by structural fuel => fuel

/-- Read a token of a proposition, after line breaks. -/
def readClaimToken : Nat -> Reading Token
  | 0 => fail "Unterminated quoted string"
  | fuel + 1 => do
      let token ← readRaw fuel .words false
      if token == .newline then readClaimToken fuel else pure token
termination_by structural fuel => fuel

/-- Read an operand of a proposition; a text that others are compared with may have groups. -/
def readOperand : Nat -> Octets -> Octets -> Reading Word
  | 0, _, _ => fail "Unterminated quoted string"
  | fuel + 1, kind, operator => do
      if operator == "=~" then
        skipBlanks
        modify fun reader =>
          { reader with before := reader.rest, token := .word, quoted := false }
        let word ← readParts fuel (.regex 0)
        modify ({ · with word := mergeText word })
        if word.isEmpty then
          let _ ← readRaw fuel .words false
          pure ()
      else
        let outer := (← get).groups
        modify ({ · with groups := outer || kind == "binary" })
        let _ ← readRaw fuel .words false
        modify ({ · with groups := outer })
      let reader ← get
      if reader.token != .word || bareText? reader.word == some "]]" then
        failHere
          [s!"unexpected argument \x60{reader.tokenText}' to conditional {kind} operator",
            s!"syntax error near \x60{← nearToken operator}'"]
      pure reader.word
termination_by structural fuel => fuel

/-- Read a proposition without connectives, and the token after it. -/
def readClaim : Nat -> Reading Proposition
  | 0 => fail "Unterminated quoted string"
  | fuel + 1 => do
      let token ← readClaimToken fuel
      let reader ← get
      match token, bareText? reader.word with
      | .finish, _ => unexpected none
      | .operator "(", _ => do
          let inner ← readDisjunction fuel
          if (← get).token != .operator ")" then
            let found := (← get).tokenText
            failHere
              [s!"unexpected token \x60{found}', expected \x60)'", s!"syntax error near \x60{found}'"]
          let _ ← readClaimToken fuel
          pure inner
      | .word, some "]]" => failHere ["syntax error near \x60]]'"]
      | .word, some "!" => do pure (.negate (← readClaim fuel))
      | .word, text => do
          match text.filter unaryTests.contains with
          | some operator => do
              let operand ← readOperand fuel "unary" operator
              let _ ← readClaimToken fuel
              pure (.holds operator operand)
          | none => readComparison fuel reader.word reader.tokenText
      | _, _ =>
          failHere
            [s!"unexpected token \x60{reader.tokenText}' in conditional command",
              s!"syntax error near \x60{reader.tokenText}'"]
termination_by structural fuel => fuel

/-- Read what a word is compared with, if it is. -/
def readComparison : Nat -> Word -> Octets -> Reading Proposition
  | 0, _, _ => fail "Unterminated quoted string"
  | fuel + 1, first, firstText => do
      let token ← readRaw fuel .words false
      let reader ← get
      let text := reader.tokenText
      let compares :=
        match token with
        | .word => ((bareText? reader.word).map binaryTests.contains).getD false
        | .redirection => text == "<" || text == ">"
        | _ => false
      let ends :=
        match token with
        | .word => bareText? reader.word == some "]]"
        | .operator operator => ["&&", "||", ")"].contains operator
        | _ => false
      if compares then
        let second ← readOperand fuel "binary" text
        let _ ← readClaimToken fuel
        pure (.relates text first second)
      else if ends then pure (.filled first)
      else
        let found := if token == .word then "" else s!"unexpected token \x60{text}', "
        failHere
          [s!"{found}conditional binary operator expected",
            s!"syntax error near \x60{← nearToken firstText}'"]
termination_by structural fuel => fuel

/-- Read what decides, the command that it chooses, and the other choices. -/
def readBranches : Nat -> Reading Script
  | 0 => fail "Unterminated quoted string"
  | fuel + 1 => do
      let test ← readBody fuel
      demand fuel (.keyword "then")
      let success ← readBody fuel
      match ← readToken fuel false .all with
      | .keyword "elif" => do
          let failure ← readBranches fuel
          pure (.choose test success failure)
      | .keyword "else" => do
          let failure ← readBody fuel
          pure (.choose test success failure)
      | _ => do
          pushBack
          pure (.choose test success .nothing)
termination_by structural fuel => fuel

/-- Read the words of a loop. -/
def readWords : Nat -> Reading (List Word)
  | 0 => fail "Unterminated quoted string"
  | fuel + 1 => do
      if (← readToken fuel false .words) == .word then
        let word := (← get).word
        pure (word :: (← readWords fuel))
      else pure []
termination_by structural fuel => fuel

/-- Read a loop over words, each of which somebody may pick. -/
def readEach : Nat -> Nat -> Bool -> Reading Script
  | 0, _, _ => fail "Unterminated quoted string"
  | fuel + 1, line, picks => do
      let token ← readToken fuel false .words
      let reader ← get
      let isExtended ← isExtended
      let name? :=
        if isExtended then plainText? reader.word
        else if reader.quoted then none
        else (bareText? reader.word).filter isName
      match token, name? with
      | .word, some name => do
          let words ← do
            if (← readToken fuel true .all) == .keyword "in" then
              let words ← readWords fuel
              let last := (← get).token
              if last != .newline && last != .operator ";" then unexpected none
              pure words
            else
              if (← get).token != .operator ";" then pushBack
              pure [[.parameter "@" .plain [] true]]
          let body ← readLoopBody fuel
          pure (if picks then .pick line name words body else .each line name words body)
      | token, _ =>
          if !isExtended then fail "Bad for loop variable"
          else if token == .operator "(" && !picks && (← sees "(") then readCount fuel line
          else unexpected none
termination_by structural fuel => fuel

/-- Read a loop that counts, after its first parenthesis. -/
def readCount : Nat -> Nat -> Reading Script
  | 0, _ => fail "Unterminated quoted string"
  | fuel + 1, line => do
      let outer ← get
      skip
      let start ← enclosed ')' (readParts fuel (.term [';', ')'] 0))
      let test ← readSection fuel outer
      let step ← readSection fuel outer
      if !(← sees "))") then failCount fuel outer
      skipMany 2
      if (← readToken fuel false .words) != .operator ";" then pushBack
      let body ← readLoopBody fuel
      pure (.count line (mergeText start) (mergeText test) (mergeText step) body)
termination_by structural fuel => fuel

/-- The expressions of a loop that counts are not those that it needs. -/
def failCount : Nat -> Reader -> Reading Unit
  | 0, _ => fail "Unterminated quoted string"
  | fuel + 1, outer => do
      set outer
      let _ ← enclosed ')' do
        skip
        readParts fuel (.expression 0)
      let inner ← get
      let text := String.ofList (outer.rest.take (outer.rest.length - inner.rest.length))
      throw {
        line := inner.lastLine
        texts := ["syntax error: arithmetic expression required",
          s!"syntax error: \x60({text}'"] }
termination_by structural fuel => fuel

/-- Read an expression after a semicolon. -/
def readSection : Nat -> Reader -> Reading Word
  | 0, _ => fail "Unterminated quoted string"
  | fuel + 1, outer => do
      if !(← takes ';') then failCount fuel outer
      enclosed ')' (readParts fuel (.term [';', ')'] 0))
termination_by structural fuel => fuel

/-- Read the branches of a choice by pattern. -/
def readCases : Nat -> Reading (List (List Word × Script × Onward))
  | 0 => fail "Unterminated quoted string"
  | fuel + 1 => do
      let token ← readToken fuel true .all
      if token == .keyword "esac" then pure []
      else
        if token == .operator "(" then
          let _ ← readToken fuel false .words
        let patterns ← readPatterns fuel
        if (← get).token != .operator ")" then unexpected (some (.operator ")"))
        let body := (← readList fuel 2).getD .nothing
        let token ← readToken fuel true .all
        match token.onward? with
        | some onward => pure ((patterns, body, onward) :: (← readCases fuel))
        | none =>
            if token == .keyword "esac" then pure [(patterns, body, .finish)]
            else unexpected (some (.operator ";;"))
termination_by structural fuel => fuel

/-- Read the patterns of a branch; the first one has been read. -/
def readPatterns : Nat -> Reading (List Word)
  | 0 => fail "Unterminated quoted string"
  | fuel + 1 => do
      match (← get).token with
      | .word | .keyword _ => do
          let word := withoutTarget (← get).word
          if (← readToken fuel false .words) == .operator "|" then
            let _ ← readToken fuel false .words
            pure (word :: (← readPatterns fuel))
          else pure [word]
      | _ => unexpected (some .word)
termination_by structural fuel => fuel

/-- Read the target of a redirection whose operator has been read. -/
def readTarget : Nat -> Reading Redirection
  | 0 => fail "Unterminated quoted string"
  | fuel + 1 => do
      let opening := (← get).opening
      if (← readToken fuel false .words) != .word then unexpected none
      let reader ← get
      match opening with
      | .file descriptor use => pure (.file descriptor use reader.word)
      | .duplicate descriptor maybeFile =>
          let isFile := ((plainText? reader.word).map fun text => !isDescriptor text).getD false
          if maybeFile && isFile then pure (.outputs false reader.word)
          else pure (.duplicate descriptor reader.word)
      | .document descriptor stripsTabs => do
          let announced : Announced :=
            { number := reader.next, mark := (plainText? reader.word).getD ""
              stripsTabs, literal := reader.quoted, line := reader.line }
          set { reader with
            announced := reader.announced ++ [announced], next := reader.next + 1 }
          pure (.document descriptor announced.number)
      | .line descriptor => pure (.line descriptor reader.word)
      | .outputs appends => pure (.outputs appends reader.word)
termination_by structural fuel => fuel

/-- Read the redirections after a command that starts on a line. -/
def readRedirections : Nat -> Nat -> Script -> Reading Script
  | 0, _, _ => fail "Unterminated quoted string"
  | fuel + 1, line, body => do
      if (← readToken fuel false .all) == .redirection then
        let redirection ← readTarget fuel
        let body :=
          match body with
          | .apart start script redirections => .apart start script (redirections ++ [redirection])
          | .redirected start script redirections =>
              .redirected start script (redirections ++ [redirection])
          | body => .redirected line body [redirection]
        readRedirections fuel line body
      else
        pushBack
        pure body
termination_by structural fuel => fuel

/-- Read a command without structure, after what has been read of it. -/
def readSimple : Nat -> Nat -> List Word -> List Word -> List Redirection -> Reading Script
  | 0, _, _, _, _ => fail "Unterminated quoted string"
  | fuel + 1, line, assignments, words, redirections => do
      let language := (← get).language
      let declares :=
        match words with
        | [] => false
        | first :: _ => ((bareText? first).map declaringCommands.contains).getD false
      let heed : Heed :=
        if words.isEmpty then .aliases
        else if declares && language == .extended then .assignments
        else .words
      let token ← readToken fuel false heed
      let now := (← get).line - (if token == .newline then 1 else 0)
      let isStart := assignments.isEmpty && redirections.isEmpty && words.length ≤ 1
      let line := if isStart && language == .extended then now else line
      match token with
      | .word => do
          let word := (← get).word
          match words, assigning? language word with
          | [], some assignment =>
              readSimple fuel line (assignments ++ [assignment]) [] redirections
          | _, _ => readSimple fuel line assignments (words ++ [word]) redirections
      | .redirection => do
          let redirection ← readTarget fuel
          readSimple fuel line assignments words (redirections ++ [redirection])
      | .operator "(" => do
          match words, assignments, redirections with
          | [name], [], [] => do
              if (← readToken fuel false .words) != .operator ")" then
                unexpected (some (.operator ")"))
              if language == .extended then
                match plainText? name with
                | some name => do
                    let line := (← get).line
                    pure (.define line name (← readCompound fuel))
                | none => unexpected none
              else
                match (bareText? name).filter isFunctionName with
                | some name => do
                    let line := (← get).line
                    let body ← readCommand fuel true .all
                    pure (.define line name body)
                | none => fail "Bad function name"
          | _, _, _ => do
              pushBack
              pure (.simple line assignments words redirections)
      | _ => do
          pushBack
          pure (.simple line assignments words redirections)
termination_by structural fuel => fuel

end

/-- Whether the script has ended. -/
def atEnd : Reading Bool := do
  let reader ← get
  pure (reader.again && reader.token == .finish)

end Reading

namespace Reader

/-- The steps that suffice to read the characters that are left. -/
def fuel (reader : Reader) : Nat :=
  let aliased := reader.aliases.foldl (fun total entry => total + entry.2.length) 0
  40 * (reader.rest.length + 40) * (aliased + 1)

/-- A reader at the start of a script; the texts of scripts before it keep their numbers. -/
def ofText
    (language : Language)
    (text : Octets)
    (line next : Nat) : Reader :=
  let chars := if language == .extended then Reading.endScript text.toList else text.toList
  { language, rest := chars, whole := chars, line, firstLine := line, next }

/--
The next complete command of a script, the reader after it, and whether it was
the last one; no command if there are none left.
-/
def next? (reader : Reader) : Except SyntaxError (Option Script × Reader × Bool) := do
  let (script, after) ←
    (Reading.readList reader.fuel 1).run
      { reader with again := false, announced := [], opened := none, warnings := [] }
  pure (script, after, after.again && after.token == .finish)

/-- The word that a text is when it is neither split nor quoted; the text itself if it is none. -/
def prose
    (language : Language)
    (text : Octets) : Word :=
  let reader : Reader := { language, rest := text.toList, whole := text.toList }
  match (Reading.readParts reader.fuel .document).run reader with
  | .ok (word, _) => mergeText word
  | .error _ => [.text text true]

end Reader
end Shell
end CameraFleet
