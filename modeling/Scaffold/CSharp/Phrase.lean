/-!
# Phrases of C#

The nonterminal symbols of the grammar. A phrase that `isHidden` stands for a choice of others: in a
tree its parts belong to the phrase around it.
-/

namespace Scaffold.CSharp

/-- A nonterminal symbol. -/
inductive Phrase where
  -- The unit and its directives
  | compilationUnit | topItem | externAlias | usingDirective | globalAttribute | fileNamespace
  | globalStatement
  -- Attributes and modifiers
  | attributeList | attributeUse | attributeTarget | attributeArguments | attributeArgument
  | modifier
  -- Declarations
  | namespaceDeclaration | declarationList | declaration | classDeclaration | structDeclaration
  | enumDeclaration | enumBody | enumMember | interfaceDeclaration | delegateDeclaration
  | recordDeclaration | recordBase | baseList | typeParameterList | typeParameter
  | typeConstraints | typeConstraint | constructorConstraint | fieldDeclaration
  | eventFieldDeclaration | eventDeclaration | methodDeclaration | constructorDeclaration
  | constructorInitializer | destructorDeclaration | indexerDeclaration | operatorDeclaration
  | conversionDeclaration | propertyDeclaration | accessorList | accessor | explicitInterface
  | parameterList | bracketedParameterList | parameter | variadicParameter | functionBody
  | arrowBody | variableDeclaration | variableDeclarator
  -- Conditional directives
  | conditionalDeclarations | declarationsBranch | conditionalItems | itemsBranch
  | conditionalExpression | expressionBranch | conditionalEnumMember | enumMemberBranch
  | conditionalAttributes | attributesBranch | condition | conditionTerm
  -- Names and types
  | identifier | name | simpleName | qualifiedName | aliasQualifiedName | genericName
  | typeArgumentList | type | implicitType | arrayType | arrayBase | arrayRank | nullableType
  | nullableBase | pointerType | pointerBase | functionPointerType | callingConvention
  | functionPointerParameter | predefinedType | tupleType | tupleElement | refType | scopedType
  -- Statements
  | statement | block | breakStatement | checkedStatement | continueStatement | doStatement
  | emptyStatement | expressionStatement | fixedStatement | forStatement | returnStatement
  | lockStatement | yieldStatement | switchStatement | switchSection | throwStatement
  | tryStatement | catchClause | catchDeclaration | catchFilter | finallyClause | unsafeStatement
  | usingStatement | foreachStatement | gotoStatement | labeledStatement | ifStatement
  | whileStatement | localDeclaration | localFunction
  -- Expressions
  | expression | lvalue | statementExpression | argumentList | bracketedArgumentList | argument
  | declarationExpression | assignment | invocation | postfixExpression | prefixExpression
  | pointerIndirection | awaitExpression | objectCreation | parenthesized | parenthesizedLvalue
  | thisExpression | baseExpression | memberAccess | tupleExpression | elementAccess | binary
  | conditional | conditionalAccess | memberBinding | elementBinding | isExpression | isPattern
  | asExpression | castExpression | checkedExpression | switchExpression | switchArm
  | throwExpression | defaultExpression | lambda | anonymousMethod | withExpression
  | sizeofExpression | typeofExpression | makerefExpression | reftypeExpression
  | refvalueExpression | refExpression | rangeExpression | implicitObjectCreation | arrayCreation
  | implicitArrayCreation | anonymousObject | stackAllocation | implicitStackAllocation
  | initializer | interpolatedString | interpolation | literal | character | regularString
  | query | queryBody | fromClause | queryClause | selectOrGroup
  -- Patterns of values
  | valuePattern | constantPattern | declarationPattern | discard | recursivePattern
  | positionalPattern | propertyPattern | subpattern | varPattern | negatedPattern
  | parenthesizedPattern | relationalPattern | binaryPattern | listPattern | designation
  | tupleDesignation | tuplePattern | whenClause
deriving DecidableEq, Repr, Inhabited, Hashable

namespace Phrase

/-- All phrases, in the order of their declaration. -/
def all : List Phrase := [
  .compilationUnit, .topItem, .externAlias, .usingDirective, .globalAttribute, .fileNamespace,
  .globalStatement, .attributeList, .attributeUse, .attributeTarget, .attributeArguments,
  .attributeArgument, .modifier, .namespaceDeclaration, .declarationList, .declaration,
  .classDeclaration, .structDeclaration, .enumDeclaration, .enumBody, .enumMember,
  .interfaceDeclaration, .delegateDeclaration, .recordDeclaration, .recordBase, .baseList,
  .typeParameterList, .typeParameter, .typeConstraints, .typeConstraint, .constructorConstraint,
  .fieldDeclaration, .eventFieldDeclaration, .eventDeclaration, .methodDeclaration,
  .constructorDeclaration, .constructorInitializer, .destructorDeclaration, .indexerDeclaration,
  .operatorDeclaration, .conversionDeclaration, .propertyDeclaration, .accessorList, .accessor,
  .explicitInterface, .parameterList, .bracketedParameterList, .parameter, .variadicParameter,
  .functionBody, .arrowBody, .variableDeclaration, .variableDeclarator, .conditionalDeclarations,
  .declarationsBranch, .conditionalItems, .itemsBranch, .conditionalExpression,
  .expressionBranch, .conditionalEnumMember, .enumMemberBranch, .conditionalAttributes,
  .attributesBranch, .condition, .conditionTerm, .identifier, .name, .simpleName, .qualifiedName,
  .aliasQualifiedName, .genericName, .typeArgumentList, .type, .implicitType, .arrayType,
  .arrayBase, .arrayRank, .nullableType, .nullableBase, .pointerType, .pointerBase,
  .functionPointerType, .callingConvention, .functionPointerParameter, .predefinedType,
  .tupleType, .tupleElement, .refType, .scopedType, .statement, .block, .breakStatement,
  .checkedStatement, .continueStatement, .doStatement, .emptyStatement, .expressionStatement,
  .fixedStatement, .forStatement, .returnStatement, .lockStatement, .yieldStatement,
  .switchStatement, .switchSection, .throwStatement, .tryStatement, .catchClause,
  .catchDeclaration, .catchFilter, .finallyClause, .unsafeStatement, .usingStatement,
  .foreachStatement, .gotoStatement, .labeledStatement, .ifStatement, .whileStatement,
  .localDeclaration, .localFunction, .expression, .lvalue, .statementExpression, .argumentList,
  .bracketedArgumentList, .argument, .declarationExpression, .assignment, .invocation,
  .postfixExpression, .prefixExpression, .pointerIndirection, .awaitExpression, .objectCreation,
  .parenthesized, .parenthesizedLvalue, .thisExpression, .baseExpression, .memberAccess,
  .tupleExpression, .elementAccess, .binary, .conditional, .conditionalAccess, .memberBinding,
  .elementBinding, .isExpression, .isPattern, .asExpression, .castExpression, .checkedExpression,
  .switchExpression, .switchArm, .throwExpression, .defaultExpression, .lambda, .anonymousMethod,
  .withExpression, .sizeofExpression, .typeofExpression, .makerefExpression, .reftypeExpression,
  .refvalueExpression, .refExpression, .rangeExpression, .implicitObjectCreation, .arrayCreation,
  .implicitArrayCreation, .anonymousObject, .stackAllocation, .implicitStackAllocation,
  .initializer, .interpolatedString, .interpolation, .literal, .character, .regularString,
  .query, .queryBody, .fromClause, .queryClause, .selectOrGroup, .valuePattern, .constantPattern,
  .declarationPattern, .discard, .recursivePattern, .positionalPattern, .propertyPattern,
  .subpattern, .varPattern, .negatedPattern, .parenthesizedPattern, .relationalPattern,
  .binaryPattern, .listPattern, .designation, .tupleDesignation, .tuplePattern, .whenClause]

/-- Whether the phrase is only a choice of others. -/
def isHidden : Phrase → Bool
  | .topItem | .declaration | .variadicParameter | .functionBody | .name | .simpleName
  | .type | .arrayBase | .nullableBase | .pointerBase | .statement | .expression | .lvalue
  | .statementExpression | .literal | .valuePattern | .designation | .conditionTerm | .queryBody => true
  | _ => false

/-- The number of a phrase. -/
def index (p : Phrase) : Nat := p.ctorIdx

end Phrase

end Scaffold.CSharp
