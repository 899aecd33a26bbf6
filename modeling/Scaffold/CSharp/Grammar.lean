import Scaffold.CSharp.Pattern

/-!
# The grammar of C#

`Phrase.pattern` gives the pattern of every phrase. The grammar is wider than the language: it says
which texts have a tree, and leaves to a compiler what only the meaning of names decides. It says
nothing of precedence either, because no use of a tree looks into an expression.
-/

namespace Scaffold.CSharp

namespace Pattern

/-- The attributes before a declaration. -/
def attributes : Pattern := repeated (phrases [.attributeList, .conditionalAttributes])

/-- The attributes and modifiers before a declaration. -/
def heading : Pattern := sequence [attributes, repeated (phrase .modifier)]

/-- The name of what is declared. -/
def declaredName : Pattern := labelled .name (phrase .identifier)

/-- The type of what is declared. -/
def declaredType : Pattern := labelled .type (phrase .type)

/-- The type parameters of what is declared, if it has any. -/
def typeParameters : Pattern := optional (labelled .typeParameters (phrase .typeParameterList))

/-- The parameters of what is declared. -/
def parameters : Pattern := labelled .parameters (phrase .parameterList)

/-- The constraints on type parameters. -/
def constraints : Pattern := repeated (phrase .typeConstraints)

/-- A semicolon directly after a declaration, which means nothing. -/
def spareSemicolon : Pattern := optional (token (.tightMark ";"))

/-- The body of a type with members. -/
def members : Pattern := sequence [labelled .body (phrase .declarationList), spareSemicolon]

/-- The parts between the name of a class or structure and its body. -/
def typeHeading : Pattern :=
  sequence [
    optional (phrase .typeParameterList), optional (phrase .parameterList),
    optional (phrase .baseList), constraints]

/-- The interface whose member is declared, if one is named. -/
def interfacePart : Pattern := optional (phrase .explicitInterface)

/-- A condition of a conditional directive with the end of its line. -/
def conditionLine : Pattern := sequence [phrase .condition, token .lineEnd]

/-- A conditional directive around `part`, with `branch` for what follows its first part. -/
def conditionally (part : Pattern) (branch : Phrase) : Pattern :=
  sequence [
    token (.directive "if"), conditionLine, part, optional (phrase branch),
    token (.directive "endif")]

/-- A further part of a conditional directive around `part`. -/
def furtherBranch (part : Pattern) (branch : Phrase) : Pattern :=
  choice [
    sequence [token (.directive "else"), part],
    sequence [token (.directive "elif"), conditionLine, part, optional (phrase branch)]]

/-- What an attribute list may say that it is about. -/
def attributeTargets : List String :=
  ["field", "event", "method", "param", "property", "return", "type"]

/-- The keywords of modifiers. -/
def modifierWords : List String := [
  "abstract", "async", "const", "extern", "file", "fixed", "internal", "new", "override",
  "partial", "private", "protected", "public", "readonly", "required", "sealed", "static",
  "unsafe", "virtual", "volatile"]

/-- The keywords that are also identifiers wherever an identifier may stand. -/
def contextualWords : List String := [
  "alias", "ascending", "by", "descending", "equals", "file", "from", "global", "group", "into",
  "join", "let", "notnull", "on", "orderby", "scoped", "select", "unmanaged", "var", "when",
  "where", "yield"]

/-- The keywords of types. -/
def typeWords : List String := [
  "bool", "byte", "char", "decimal", "double", "float", "int", "long", "object", "sbyte", "short",
  "string", "uint", "ulong", "ushort", "nint", "nuint", "void"]

/-- The operators that a type can declare. -/
def declaredOperators : Pattern :=
  choice [
    marksOf [
      "!", "~", "++", "--", "+", "-", "*", "/", "%", "^", "|", "&", "<<", ">>", ">>>", "==", "!=",
      ">", "<", ">=", "<="],
    wordsOf ["true", "false"]]

/-- The operators between two operands. -/
def binaryOperators : List String := [
  "&&", "||", ">>", ">>>", "<<", "&", "^", "|", "+", "-", "*", "/", "%", "<", "<=", "==", "!=",
  ">=", ">", "??"]

/-- The operators of assignments. -/
def assignmentOperators : List String := [
  "=", "+=", "-=", "*=", "/=", "%=", "&=", "^=", "|=", "<<=", ">>=", ">>>=", "??="]

/-- What a designation in a declaration may name: a variable or a tuple of variables. -/
def variableName : Pattern := choice [declaredName, phrase .tuplePattern]

end Pattern

open Pattern

namespace Phrase

/-- The pattern of a phrase. -/
def pattern : Phrase → Pattern
  -- The unit and its directives
  | compilationUnit => sequence [optional (token .shebang), repeated (phrase topItem)]
  | topItem => phrases [
      externAlias, usingDirective, globalAttribute, conditionalItems, namespaceDeclaration,
      classDeclaration, structDeclaration, enumDeclaration, interfaceDeclaration,
      delegateDeclaration, recordDeclaration, fileNamespace, globalStatement]
  | externAlias => sequence [word "extern", word "alias", declaredName, mark ";"]
  | usingDirective => sequence [
      optional (word "global"), word "using",
      choice [
        sequence [optional (word "unsafe"), declaredName, mark "=", phrase type],
        sequence [optional (word "static"), optional (word "unsafe"), phrase name]],
      mark ";"]
  | globalAttribute => between "[" "]" [
      wordsOf ["assembly", "module"], mark ":", listOrNothing (phrase attributeUse),
      optional (mark ",")]
  | fileNamespace => sequence [word "namespace", labelled .name (phrase name), mark ";"]
  | globalStatement => phrase statement
  -- Attributes and modifiers
  | attributeList => between "[" "]" [
      optional (phrase attributeTarget), openList (phrase attributeUse)]
  | attributeUse => sequence [labelled .name (phrase name), optional (phrase attributeArguments)]
  | attributeTarget => sequence [wordsOf attributeTargets, mark ":"]
  | attributeArguments => between "(" ")" [listOrNothing (phrase attributeArgument)]
  | attributeArgument => sequence [
      optional (sequence [phrase identifier, marksOf [":", "="]]), phrase expression]
  | modifier => wordsOf modifierWords
  -- Declarations
  | namespaceDeclaration => sequence [word "namespace", labelled .name (phrase name), members]
  | declarationList => between "\x7b" "\x7d" [repeated (phrase declaration)]
  | declaration => phrases [
      classDeclaration, structDeclaration, enumDeclaration, delegateDeclaration, fieldDeclaration,
      methodDeclaration, eventDeclaration, eventFieldDeclaration, recordDeclaration,
      constructorDeclaration, destructorDeclaration, indexerDeclaration, interfaceDeclaration,
      namespaceDeclaration, operatorDeclaration, conversionDeclaration, propertyDeclaration,
      usingDirective, conditionalDeclarations]
  | classDeclaration => sequence [heading, word "class", declaredName, typeHeading, members]
  | structDeclaration => sequence [
      attributes, repeated (choice [phrase modifier, word "ref"]), word "struct", declaredName,
      typeHeading, members]
  | enumDeclaration => sequence [
      heading, word "enum", declaredName, optional (phrase baseList),
      labelled .body (phrase enumBody), spareSemicolon]
  | enumBody => between "\x7b" "\x7d" [
      listOrNothing (phrases [enumMember, conditionalEnumMember]), optional (mark ",")]
  | enumMember => sequence [
      attributes, declaredName, optional (sequence [mark "=", phrase expression])]
  | interfaceDeclaration => sequence [
      heading, word "interface", declaredName, typeParameters, optional (phrase baseList),
      constraints, members]
  | delegateDeclaration => sequence [
      heading, word "delegate", declaredType, declaredName, typeParameters, parameters,
      constraints, mark ";"]
  | recordDeclaration => sequence [
      heading, word "record", optional (wordsOf ["class", "struct"]), declaredName,
      optional (phrase typeParameterList), optional (phrase parameterList),
      optional (phrase recordBase), constraints,
      choice [labelled .body (phrase declarationList), mark ";"], spareSemicolon]
  | recordBase => phrase baseList
  | baseList => sequence [
      mark ":", list (sequence [phrase type, optional (phrase argumentList)])]
  | typeParameterList => between "<" ">" [list (phrase typeParameter)]
  | typeParameter => sequence [attributes, optional (wordsOf ["in", "out"]), declaredName]
  | typeConstraints => sequence [
      word "where", phrase identifier, mark ":", list (phrase typeConstraint)]
  | typeConstraint => choice [
      sequence [word "class", optional (mark "?")], wordsOf ["struct", "notnull", "unmanaged"],
      phrase constructorConstraint, declaredType]
  | constructorConstraint => sequence [word "new", mark "(", mark ")"]
  | fieldDeclaration => sequence [heading, phrase variableDeclaration, mark ";"]
  | eventFieldDeclaration => sequence [
      heading, word "event", phrase variableDeclaration, mark ";"]
  | eventDeclaration => sequence [
      heading, word "event", declaredType, interfacePart, declaredName,
      choice [phrase accessorList, mark ";"]]
  | methodDeclaration => sequence [
      heading, labelled .returns (phrase type), interfacePart, declaredName, typeParameters,
      parameters, constraints, phrase functionBody]
  | constructorDeclaration => sequence [
      heading, declaredName, parameters, optional (phrase constructorInitializer),
      phrase functionBody]
  | constructorInitializer => sequence [
      mark ":", wordsOf ["base", "this"], phrase argumentList]
  | destructorDeclaration => sequence [
      attributes, optional (word "extern"), mark "~", declaredName, parameters,
      phrase functionBody]
  | indexerDeclaration => sequence [
      heading, declaredType, interfacePart, word "this",
      labelled .parameters (phrase bracketedParameterList),
      choice [phrase accessorList, sequence [phrase arrowBody, mark ";"]]]
  | operatorDeclaration => sequence [
      heading, declaredType, interfacePart, word "operator", optional (word "checked"),
      declaredOperators, parameters, phrase functionBody]
  | conversionDeclaration => sequence [
      heading, wordsOf ["implicit", "explicit"], interfacePart, word "operator",
      optional (word "checked"), declaredType, parameters, phrase functionBody]
  | propertyDeclaration => sequence [
      heading, declaredType, interfacePart, declaredName,
      choice [
        sequence [
          phrase accessorList, optional (sequence [mark "=", phrase expression, mark ";"])],
        sequence [phrase arrowBody, mark ";"]]]
  | accessorList => between "\x7b" "\x7d" [repeated (phrase accessor)]
  | accessor => sequence [
      heading, choice [wordsOf ["get", "set", "add", "remove", "init"], phrase identifier],
      phrase functionBody]
  | explicitInterface => sequence [phrase name, mark "."]
  | parameterList => between "(" ")" [listOrNothing (phrases [parameter, variadicParameter])]
  | bracketedParameterList => between "[" "]" [
      listOrNothing (phrases [parameter, variadicParameter])]
  | parameter => sequence [
      attributes,
      optional (sequence [
        repeated (wordsOf ["this", "scoped", "ref", "out", "in", "readonly"]), declaredType]),
      declaredName, optional (sequence [mark "=", phrase expression])]
  | variadicParameter => sequence [
      attributes, word "params", labelled .type (phrases [arrayType, nullableType]), declaredName]
  | functionBody => choice [
      labelled .body (phrase block), sequence [labelled .body (phrase arrowBody), mark ";"],
      mark ";"]
  | arrowBody => sequence [mark "=>", phrase expression]
  | variableDeclaration => sequence [declaredType, list (phrase variableDeclarator)]
  | variableDeclarator => sequence [
      variableName, optional (phrase bracketedArgumentList),
      optional (sequence [mark "=", phrase expression])]
  -- Conditional directives
  | conditionalDeclarations => conditionally (repeated (phrase declaration)) declarationsBranch
  | declarationsBranch => furtherBranch (repeated (phrase declaration)) declarationsBranch
  | conditionalItems => conditionally (repeated (phrases [topItem, statement])) itemsBranch
  | itemsBranch => furtherBranch (repeated (phrases [topItem, statement])) itemsBranch
  | conditionalExpression => conditionally (optional (phrase expression)) expressionBranch
  | expressionBranch => furtherBranch (optional (phrase expression)) expressionBranch
  | conditionalEnumMember => conditionally (optional (phrase enumMember)) enumMemberBranch
  | enumMemberBranch => furtherBranch (optional (phrase enumMember)) enumMemberBranch
  | conditionalAttributes => conditionally (optional (phrase attributeList)) attributesBranch
  | attributesBranch => furtherBranch (optional (phrase attributeList)) attributesBranch
  | condition => phrase conditionTerm
  | conditionTerm => choice [
      phrase identifier, wordsOf ["true", "false"], token .integer, phrase character,
      sequence [mark "!", phrase conditionTerm],
      sequence [phrase conditionTerm, marksOf ["||", "&&", "==", "!="], phrase conditionTerm],
      between "(" ")" [phrase conditionTerm]]
  -- Names and types
  | identifier => choice [token .identifier, wordsOf contextualWords]
  | name => phrases [simpleName, qualifiedName, aliasQualifiedName]
  | simpleName => phrases [identifier, genericName]
  | qualifiedName => sequence [phrase name, mark ".", phrase simpleName]
  | aliasQualifiedName => sequence [phrase identifier, mark "::", phrase simpleName]
  | genericName => sequence [phrase identifier, phrase typeArgumentList]
  | typeArgumentList => between "<" ">" [
      choice [repeated (mark ","), list (phrase type)]]
  | type => phrases [
      implicitType, arrayType, name, nullableType, pointerType, functionPointerType,
      predefinedType, tupleType, refType, scopedType]
  | implicitType => word "var"
  | arrayType => sequence [phrase arrayBase, phrase arrayRank]
  | arrayBase => phrases [
      arrayType, name, nullableType, pointerType, functionPointerType, predefinedType, tupleType]
  | arrayRank => between "[" "]" [listOrNothing (optional (phrase expression))]
  | nullableType => sequence [phrase nullableBase, mark "?"]
  | nullableBase => phrases [arrayType, name, predefinedType, tupleType]
  | pointerType => sequence [phrase pointerBase, mark "*"]
  | pointerBase => phrases [
      name, nullableType, pointerType, functionPointerType, predefinedType, tupleType]
  | functionPointerType => sequence [
      word "delegate", mark "*", optional (phrase callingConvention),
      between "<" ">" [
        repeated (sequence [phrase functionPointerParameter, mark ","]), phrase type]]
  | callingConvention => choice [
      word "managed",
      sequence [
        word "unmanaged",
        optional (between "[" "]" [list (choice [
          wordsOf ["Cdecl", "Stdcall", "Thiscall", "Fastcall"], phrase identifier])])]]
  | functionPointerParameter => sequence [optional (wordsOf ["ref", "out", "in"]), phrase type]
  | predefinedType => wordsOf typeWords
  | tupleType => between "(" ")" [phrase tupleElement, mark ",", list (phrase tupleElement)]
  | tupleElement => sequence [declaredType, optional declaredName]
  | refType => sequence [word "ref", optional (word "readonly"), phrase type]
  | scopedType => sequence [word "scoped", phrases [name, refType]]
  -- Statements
  | statement => phrases [
      block, breakStatement, checkedStatement, continueStatement, doStatement, emptyStatement,
      expressionStatement, fixedStatement, forStatement, returnStatement, lockStatement,
      yieldStatement, switchStatement, throwStatement, tryStatement, unsafeStatement,
      usingStatement, foreachStatement, gotoStatement, labeledStatement, ifStatement,
      whileStatement, localDeclaration, localFunction, conditionalItems]
  | block => between "\x7b" "\x7d" [repeated (phrase statement)]
  | breakStatement => sequence [word "break", mark ";"]
  | checkedStatement => sequence [wordsOf ["checked", "unchecked"], phrase block]
  | continueStatement => sequence [word "continue", mark ";"]
  | doStatement => sequence [
      word "do", phrase statement, word "while", between "(" ")" [phrase expression], mark ";"]
  | emptyStatement => mark ";"
  | expressionStatement => sequence [phrase statementExpression, mark ";"]
  | fixedStatement => sequence [
      word "fixed", between "(" ")" [phrase variableDeclaration], phrase statement]
  | forStatement => sequence [
      word "for",
      between "(" ")" [
        optional (choice [phrase variableDeclaration, list (phrase expression)]), mark ";",
        optional (phrase expression), mark ";", listOrNothing (phrase expression)],
      phrase statement]
  | returnStatement => sequence [word "return", optional (phrase expression), mark ";"]
  | lockStatement => sequence [
      word "lock", between "(" ")" [phrase expression], phrase statement]
  | yieldStatement => sequence [
      word "yield", choice [sequence [word "return", phrase expression], word "break"], mark ";"]
  | switchStatement => sequence [
      word "switch", choice [between "(" ")" [phrase expression], phrase tupleExpression],
      between "\x7b" "\x7d" [repeated (phrase switchSection)]]
  | switchSection => sequence [
      choice [
        sequence [
          word "case",
          choice [
            phrase expression, sequence [phrase valuePattern, optional (phrase whenClause)]],
          mark ":"],
        sequence [word "default", mark ":"]],
      repeated (phrase statement)]
  | throwStatement => sequence [word "throw", optional (phrase expression), mark ";"]
  | tryStatement => sequence [
      word "try", phrase block, repeated (phrase catchClause), optional (phrase finallyClause)]
  | catchClause => sequence [
      word "catch", repeated (phrases [catchDeclaration, catchFilter]), phrase block]
  | catchDeclaration => between "(" ")" [declaredType, optional declaredName]
  | catchFilter => sequence [word "when", between "(" ")" [phrase expression]]
  | finallyClause => sequence [word "finally", phrase block]
  | unsafeStatement => sequence [word "unsafe", phrase block]
  | usingStatement => sequence [
      optional (word "await"), word "using",
      between "(" ")" [phrases [variableDeclaration, expression]], phrase statement]
  | foreachStatement => sequence [
      optional (word "await"), word "foreach",
      between "(" ")" [
        choice [sequence [phrase type, variableName], phrase expression], word "in",
        phrase expression],
      phrase statement]
  | gotoStatement => sequence [
      word "goto",
      choice [phrase identifier, sequence [word "case", phrase expression], word "default"],
      mark ";"]
  | labeledStatement => sequence [phrase identifier, mark ":", phrase statement]
  | ifStatement => sequence [
      word "if", between "(" ")" [phrase expression], phrase statement,
      optional (sequence [word "else", phrase statement])]
  | whileStatement => sequence [
      word "while", between "(" ")" [phrase expression], phrase statement]
  | localDeclaration => sequence [
      optional (word "await"), optional (word "using"), repeated (phrase modifier),
      phrase variableDeclaration, mark ";"]
  | localFunction => sequence [
      heading, declaredType, declaredName, typeParameters, parameters, constraints,
      phrase functionBody]
  -- Expressions
  | expression => phrases [
      statementExpression, lvalue, literal, baseExpression, binary, interpolatedString,
      conditional, conditionalAccess, isExpression, isPattern, asExpression, castExpression,
      checkedExpression, switchExpression, throwExpression, defaultExpression, lambda, withExpression,
      sizeofExpression, typeofExpression, makerefExpression, refExpression, reftypeExpression,
      refvalueExpression, stackAllocation, rangeExpression, arrayCreation, anonymousMethod,
      anonymousObject, implicitArrayCreation, implicitObjectCreation, implicitStackAllocation,
      initializer, query, conditionalExpression]
  | lvalue => phrases [
      thisExpression, memberAccess, tupleExpression, simpleName, elementAccess,
      bracketedArgumentList, pointerIndirection, parenthesizedLvalue]
  | statementExpression => phrases [
      assignment, invocation, postfixExpression, prefixExpression, awaitExpression,
      objectCreation, parenthesized]
  | argumentList => between "(" ")" [listOrNothing (phrase argument)]
  | bracketedArgumentList => between "[" "]" [
      listOrNothing (phrase argument), optional (mark ",")]
  | argument => sequence [
      optional (sequence [phrase identifier, mark ":"]), optional (wordsOf ["ref", "out", "in"]),
      phrases [expression, declarationExpression]]
  | declarationExpression => sequence [phrase type, phrase designation]
  | assignment => sequence [phrase lvalue, marksOf assignmentOperators, phrase expression]
  | invocation => sequence [phrase expression, phrase argumentList]
  | postfixExpression => sequence [phrase expression, marksOf ["++", "--", "!"]]
  | prefixExpression => sequence [
      marksOf ["++", "--", "+", "-", "!", "~", "&", "^"], phrase expression]
  | pointerIndirection => sequence [mark "*", phrase expression]
  | awaitExpression => sequence [word "await", phrase expression]
  | objectCreation => sequence [
      word "new", phrase type, optional (phrase argumentList), optional (phrase initializer)]
  | parenthesized => between "(" ")" [phrase expression]
  | parenthesizedLvalue => between "(" ")" [phrase lvalue]
  | thisExpression => word "this"
  | baseExpression => word "base"
  | memberAccess => sequence [
      phrases [expression, predefinedType, name], marksOf [".", "->"], phrase simpleName]
  | tupleExpression => between "(" ")" [phrase argument, mark ",", list (phrase argument)]
  | elementAccess => sequence [phrase expression, phrase bracketedArgumentList]
  | binary => sequence [phrase expression, marksOf binaryOperators, phrase expression]
  | conditional => sequence [
      phrase expression, mark "?", phrase expression, mark ":", phrase expression]
  | conditionalAccess => sequence [
      phrase expression, mark "?", phrases [memberBinding, elementBinding]]
  | memberBinding => sequence [mark ".", phrase simpleName]
  | elementBinding => phrase bracketedArgumentList
  | isExpression => sequence [phrase expression, word "is", phrase type]
  | isPattern => sequence [phrase expression, word "is", phrase valuePattern]
  | asExpression => sequence [phrase expression, word "as", phrase type]
  | castExpression => sequence [between "(" ")" [phrase type], phrase expression]
  | checkedExpression => sequence [
      wordsOf ["checked", "unchecked"], between "(" ")" [phrase expression]]
  | switchExpression => sequence [
      phrase expression, word "switch",
      between "\x7b" "\x7d" [listOrNothing (phrase switchArm), optional (mark ",")]]
  | switchArm => sequence [
      phrase valuePattern, optional (phrase whenClause), mark "=>", phrase expression]
  | throwExpression => sequence [word "throw", phrase expression]
  | defaultExpression => sequence [word "default", optional (between "(" ")" [phrase type])]
  | lambda => sequence [
      attributes, repeated (wordsOf ["static", "async"]),
      choice [sequence [optional (phrase type), phrase parameterList], phrase identifier],
      mark "=>", phrases [block, expression]]
  | anonymousMethod => sequence [
      repeated (wordsOf ["static", "async"]), word "delegate", optional (phrase parameterList),
      phrase block]
  | withExpression => sequence [
      phrase expression, word "with",
      between "\x7b" "\x7d" [
        listOrNothing (sequence [phrase identifier, mark "=", phrase expression]),
        optional (mark ",")]]
  | sizeofExpression => sequence [word "sizeof", between "(" ")" [phrase type]]
  | typeofExpression => sequence [word "typeof", between "(" ")" [phrase type]]
  | makerefExpression => sequence [word "__makeref", between "(" ")" [phrase expression]]
  | reftypeExpression => sequence [word "__reftype", between "(" ")" [phrase expression]]
  | refvalueExpression => sequence [
      word "__refvalue", between "(" ")" [phrase expression, mark ",", phrase type]]
  | refExpression => sequence [word "ref", phrase expression]
  | rangeExpression => sequence [
      optional (phrase expression), mark "..", optional (phrase expression)]
  | implicitObjectCreation => sequence [
      word "new", phrase argumentList, optional (phrase initializer)]
  | arrayCreation => sequence [word "new", phrase arrayType, optional (phrase initializer)]
  | implicitArrayCreation => sequence [
      word "new", between "[" "]" [repeated (mark ",")], phrase initializer]
  | anonymousObject => sequence [
      word "new",
      between "\x7b" "\x7d" [
        listOrNothing (sequence [
          optional (sequence [phrase identifier, mark "="]), phrase expression]),
        optional (mark ",")]]
  | stackAllocation => sequence [word "stackalloc", phrase arrayType, optional (phrase initializer)]
  | implicitStackAllocation => sequence [
      word "stackalloc", mark "[", mark "]", phrase initializer]
  | initializer => between "\x7b" "\x7d" [
      listOrNothing (phrase expression), optional (mark ",")]
  | interpolatedString => choice [
      sequence [
        token .interpolationStart,
        repeated (choice [token .interpolationText, token .escape, phrase interpolation]),
        token (.tightMark "\"")],
      sequence [
        token .verbatimInterpolationStart,
        repeated (choice [token .verbatimInterpolationText, phrase interpolation]),
        token (.tightMark "\"")],
      token .rawInterpolation]
  | interpolation => sequence [
      token .holeStart, phrase expression, optional (sequence [mark ",", phrase expression]),
      optional (sequence [mark ":", token .holeFormat]), mark "\x7d"]
  | literal => choice [
      wordsOf ["null", "true", "false"], phrase character, token .real, token .integer,
      phrase regularString, token .verbatimString, token .rawString]
  | character => sequence [mark "'", choice [token .characterText, token .escape], mark "'"]
  | regularString => sequence [
      token .openQuote, repeated (choice [token .stringText, token .escape]), mark "\"",
      optional (token .encoding)]
  | query => sequence [phrase fromClause, phrase queryBody]
  | queryBody => sequence [
      repeated (phrase queryClause), phrase selectOrGroup,
      optional (sequence [word "into", phrase identifier, phrase queryBody])]
  | fromClause => sequence [
      word "from", optional (phrase type), phrase identifier, word "in", phrase expression]
  | queryClause => choice [
      phrase fromClause,
      sequence [word "let", phrase identifier, mark "=", phrase expression],
      sequence [
        word "orderby",
        list (sequence [phrase expression, optional (wordsOf ["ascending", "descending"])])],
      sequence [word "where", phrase expression],
      sequence [
        word "join", optional (phrase type), phrase identifier, word "in", phrase expression,
        word "on", phrase expression, word "equals", phrase expression,
        optional (sequence [word "into", phrase identifier])]]
  | selectOrGroup => choice [
      sequence [word "select", phrase expression],
      sequence [word "group", phrase expression, word "by", phrase expression]]
  -- Patterns of values
  | valuePattern => phrases [
      constantPattern, declarationPattern, discard, recursivePattern, varPattern, negatedPattern,
      parenthesizedPattern, relationalPattern, binaryPattern, listPattern, type]
  | constantPattern => phrases [
      binary, defaultExpression, interpolatedString, parenthesized, postfixExpression,
      prefixExpression, sizeofExpression, tupleExpression, typeofExpression, memberAccess,
      invocation, castExpression, simpleName, literal]
  | declarationPattern => sequence [phrase type, phrase designation]
  | discard => word "_"
  | recursivePattern => sequence [
      optional (phrase type),
      choice [
        sequence [phrase positionalPattern, optional (phrase propertyPattern)],
        phrase propertyPattern],
      optional (phrase designation)]
  | positionalPattern => between "(" ")" [listOrNothing (phrase subpattern)]
  | propertyPattern => between "\x7b" "\x7d" [
      listOrNothing (phrase subpattern), optional (mark ",")]
  | subpattern => sequence [
      optional (sequence [phrase expression, mark ":"]), phrase valuePattern]
  | varPattern => sequence [word "var", phrase designation]
  | negatedPattern => sequence [word "not", phrase valuePattern]
  | parenthesizedPattern => between "(" ")" [phrase valuePattern]
  | relationalPattern => sequence [marksOf ["<", "<=", ">", ">="], phrase expression]
  | binaryPattern => sequence [
      phrase valuePattern, wordsOf ["and", "or"], phrase valuePattern]
  | listPattern => between "[" "]" [
      optional (openList (choice [phrase valuePattern, mark ".."]))]
  | designation => phrases [discard, tupleDesignation, identifier]
  | tupleDesignation => between "(" ")" [listOrNothing (phrase designation)]
  | tuplePattern => between "(" ")" [list (phrases [discard, identifier, tuplePattern])]
  | whenClause => sequence [word "when", phrase expression]

end Phrase

end Scaffold.CSharp
