import HeaderBindings.FileTree
import HeaderBindings.Main
import HeaderBindings.Proofs.Pipeline.EnumeratorValues
import HeaderBindings.Proofs.Pipeline.StructDeclarations
import HeaderBindings.Proofs.Session.BindingNames
import HeaderBindings.Proofs.Session.BoundTypes
import HeaderBindings.Proofs.Session.FailureIsolation
import HeaderBindings.Proofs.Session.NoDangling
import HeaderBindings.Proofs.Session.Regeneration
import HeaderBindings.Proofs.Session.Extension
import HeaderBindings.Proofs.Naming.SuffixNumbering
import HeaderBindings.Proofs.Session.Numbering
import HeaderBindings.Proofs.Session.Grouping
import HeaderBindings.Proofs.Session.SymbolBindings
import HeaderBindings.Proofs.Session.TypeOrder
import HeaderBindings.Proofs.Session.Confinement
import HeaderBindings.Proofs.Session.SignatureForm
import HeaderBindings.Proofs.Session.HeaderOrder
import HeaderBindings.Proofs.Cursor.TaggedOnce
import HeaderBindings.Proofs.Cursor.Termination
import HeaderBindings.Proofs.Cursor.Members
import HeaderBindings.Proofs.Session.FirstRegistration
import HeaderBindings.Proofs.Session.Redeclaration
import HeaderBindings.Proofs.Conversion.Indirection
import HeaderBindings.Proofs.Pipeline.SymbolTableFile
import HeaderBindings.Proofs.Pipeline.NamePrecedence
import HeaderBindings.Proofs.Session.VoidTypedefs
import HeaderBindings.Proofs.Session.NestedTypes
import HeaderBindings.Proofs.Cursor.TypeSugar
import HeaderBindings.Proofs.Pipeline.UnnamedTypes
import HeaderBindings.Proofs.Conversion.Unions
import HeaderBindings.Proofs.Target.Placement
import HeaderBindings.Proofs.Conversion.Causes
import HeaderBindings.Proofs.Conversion.Stability
import HeaderBindings.Proofs.Header.Literals
import HeaderBindings.Proofs.Header.RunningValues
import HeaderBindings.Proofs.Naming.CountsAsCache
import HeaderBindings.Proofs.Naming.ReadBack
import HeaderBindings.Proofs.Target.Unambiguous
import HeaderBindings.Proofs.Flags.Expansion
import HeaderBindings.Proofs.Flags.IncludeDirs
import HeaderBindings.Proofs.Pipeline.HeaderPaths
import HeaderBindings.Proofs.Naming.FirstMatch
import HeaderBindings.Proofs.Package.FilesByHeader
import HeaderBindings.Proofs.Text.CamelCase
import HeaderBindings.Proofs.Path.BelowInclude
