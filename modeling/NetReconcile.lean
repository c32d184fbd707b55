import NetReconcile.Main
import NetReconcile.MemoryHost
import NetReconcile.Proofs.Materialize.Steps
import NetReconcile.Proofs.Materialize.InMemory
import NetReconcile.Proofs.Materialize.Convergence
import NetReconcile.Proofs.Materialize.Faults
import NetReconcile.Proofs.Materialize.Rendering
import NetReconcile.Proofs.FilePath
import NetReconcile.Proofs.FileTree.Converge
import NetReconcile.Proofs.FileTree.Debris
import NetReconcile.Proofs.Announce.InMemory
import NetReconcile.Proofs.Announce.SideBySide
import NetReconcile.Proofs.Setup.Stages
import NetReconcile.Proofs.Setup.Agreement
import NetReconcile.Proofs.Setup.Noninterference
import NetReconcile.Proofs.Setup.Discipline
import NetReconcile.Proofs.Setup.Convergence
import NetReconcile.Proofs.Setup.History
import NetReconcile.Proofs.Setup.Enumeration
import NetReconcile.Proofs.Address.Subnet
import NetReconcile.Proofs.Address.Table
import NetReconcile.Proofs.Derivation.Literals
import NetReconcile.Proofs.Derivation.Roles
import NetReconcile.Proofs.Derivation.Acceptance
import NetReconcile.Proofs.Derivation.Specification
import NetReconcile.Proofs.Derivation.Reordering
import NetReconcile.Proofs.Binding.Resolution
import NetReconcile.Proofs.Binding.Discovery
import NetReconcile.Proofs.Text.Digits
import NetReconcile.Proofs.Address.IPv4
import NetReconcile.Proofs.Address.IPv6
import NetReconcile.Proofs.Nameservers
import NetReconcile.Proofs.Setup.Nameservers
import NetReconcile.Proofs.Announce.Course
import NetReconcile.Proofs.Setup.Respelling
import NetReconcile.Proofs.Setup.NameserverChange
import NetReconcile.Proofs.Setup.ConfiguredAfter
import NetReconcile.Proofs.Settings
import NetReconcile.Proofs.Backoff
import NetReconcile.Proofs.Address.Broadcast
import NetReconcile.Proofs.ResolverFile
import NetReconcile.Proofs.FileTree.Directories
import NetReconcile.Proofs.ManagedPath
import NetReconcile.Proofs.Setup.UsualNames
