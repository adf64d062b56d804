import RpcStubs.Main
import RpcStubs.Proofs.Command.Confinement
import RpcStubs.Proofs.Command.Delivery
import RpcStubs.Proofs.Command.Failure
import RpcStubs.Proofs.Descriptor.Decoding
import RpcStubs.Proofs.Generation.Independence
import RpcStubs.Proofs.Generation.Outcome
import RpcStubs.Proofs.Generation.References
import RpcStubs.Proofs.Generation.Registry
import RpcStubs.Proofs.Go.Columns
import RpcStubs.Proofs.Go.Identifier
import RpcStubs.Proofs.Go.Nesting
import RpcStubs.Proofs.Options.Writing
import RpcStubs.Proofs.Stub.Addressing
import RpcStubs.Proofs.Stub.Alignment
import RpcStubs.Proofs.Stub.Containment
import RpcStubs.Proofs.Stub.Declarations
import RpcStubs.Proofs.Stub.Dependencies
import RpcStubs.Proofs.Stub.Extension
import RpcStubs.Proofs.Stub.Grouping
import RpcStubs.Proofs.Stub.Imports
import RpcStubs.Proofs.Stub.Nameless
import RpcStubs.Proofs.Stub.Quotation
import RpcStubs.Proofs.Stub.Root
import RpcStubs.Proofs.Stub.Shadowing
import RpcStubs.Proofs.Stub.Usage
import RpcStubs.Proofs.Stub.Visibility
import RpcStubs.Proofs.Symbol.Allocation
import RpcStubs.Proofs.Symbol.Reservation
