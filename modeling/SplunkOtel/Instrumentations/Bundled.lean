import SplunkOtel.Utils.Environment

/-!
# The bundled instrumentations (`src/instrumentations/index.ts`)
-/

namespace SplunkOtel.Instrumentations

structure InstrumentationInfo where
  shortName : String
  disabledByDefault : Option Bool := none
deriving DecidableEq

def bundledInstrumentations : List InstrumentationInfo :=
  [⟨"amqplib", none⟩, ⟨"aws_sdk", none⟩, ⟨"bunyan", none⟩, ⟨"cassandra_driver", none⟩,
    ⟨"connect", none⟩, ⟨"dataloader", none⟩, ⟨"dns", none⟩, ⟨"express", none⟩, ⟨"fastify", none⟩,
    ⟨"generic_pool", none⟩, ⟨"graphql", none⟩, ⟨"grpc", none⟩, ⟨"hapi", none⟩, ⟨"http", none⟩,
    ⟨"ioredis", none⟩, ⟨"kafkajs", none⟩, ⟨"knex", none⟩, ⟨"koa", none⟩, ⟨"lru_memoizer", none⟩,
    ⟨"memcached", none⟩, ⟨"mongodb", none⟩, ⟨"mongoose", none⟩, ⟨"mysql", none⟩, ⟨"mysql2", none⟩,
    ⟨"neo4j", none⟩, ⟨"nestjs_core", none⟩, ⟨"net", none⟩, ⟨"nocode", none⟩, ⟨"openai", none⟩,
    ⟨"oracle", none⟩, ⟨"pg", none⟩, ⟨"pino", none⟩, ⟨"redis", none⟩, ⟨"restify", none⟩,
    ⟨"router", none⟩, ⟨"socketio", none⟩, ⟨"tedious", none⟩, ⟨"winston", none⟩,
    ⟨"elasticsearch", none⟩, ⟨"sequelize", none⟩, ⟨"typeorm", none⟩, ⟨"undici", none⟩,
    ⟨"httpdc", some true⟩]

def envKey (info : InstrumentationInfo) : EnvVarKey := .instrumentation info.shortName.toUpper

end SplunkOtel.Instrumentations
